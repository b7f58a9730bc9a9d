import CogniDQ.Rules.SidedCheck
import CogniDQ.Rules.UniquenessCounts
import CogniDQ.Sql.Join

/-!
# Uniqueness modes that join

The modes that look keys up in another dataset, and those that join the table with itself to find
values that are similar or keys that repeat within a time. Each counts its duplicates over the pairs,
and the rows in all over the table.
-/

set_option autoImplicit false

namespace CogniDQ.Rules

open CogniDQ.Python CogniDQ.Sql

def uniquenessRow (counts : List (String × Nat)) (total duplicates : Nat) : Dict :=
  counts.map (fun (key, count) => (key, Value.int count)) ++
    [("uniqueness_rate", percentage (total - duplicates) total)]

/-- A key column of a relation, without its letter case where that is ignored. -/
def keyIn (caseSensitive : Bool) (relation column : String) : Expr :=
  if caseSensitive then .column ⟨relation, column⟩
  else .unary "LOWER(" "::text)" (.column ⟨relation, column⟩)

def presentIn (relation column : String) : Predicate := .atom (.isNotNull (.column ⟨relation, column⟩))

def filterClause (runtime : Runtime) (filter : Value) : Phrase :=
  whereAll ((filterCondition runtime filter).map Predicate.phrase)

section Reading

variable {Row V : Type}

def inFilter (runtime : Runtime) (engine : Engine Row V) (filter : Value) (row : Row) : Bool :=
  admits engine row (filterCondition runtime filter)

def keyValue (engine : Engine Row V) (caseSensitive : Bool) (value : Option V) : Option V :=
  if caseSensitive then value else value.map (engine.unary "LOWER(" "::text)")

variable {runtime : Runtime} {engine : Engine Row V} {first second : String} {filter : Value}

theorem admits_paired (pair : Row × Option Row) :
    admits (engine.paired first second) pair (filterCondition runtime filter) =
      inFilter runtime engine filter pair.1 := by
  unfold inFilter filterCondition
  split
  · rfl
  · rfl

theorem eval_keyIn_first (caseSensitive : Bool) (column : String) (pair : Row × Option Row) :
    (keyIn caseSensitive first column).eval (engine.paired first second) pair =
      keyValue engine caseSensitive (engine.cell pair.1 column) := by
  unfold keyIn keyValue
  cases caseSensitive <;> simp [Expr.eval, Engine.paired, Engine.joined, Engine.cell]

private theorem eval_keyIn_second (apart : second ≠ first) (caseSensitive : Bool) (column : String)
    (row other : Row) :
    (keyIn caseSensitive second column).eval (engine.paired first second) (row, some other) =
      keyValue engine caseSensitive (engine.cell other column) := by
  unfold keyIn keyValue
  cases caseSensitive <;> simp [Expr.eval, Engine.paired, Engine.joined, Engine.cell, apart]

theorem holds_sameKeyIn (apart : second ≠ first) (caseSensitive : Bool) (column other : String)
    (row partner : Row) :
    (Predicate.atom (.compare .equal (keyIn caseSensitive first column)
        (keyIn caseSensitive second other))).holds (engine.paired first second) (row, some partner) =
      engine.bothEqual (keyValue engine caseSensitive (engine.cell row column))
        (keyValue engine caseSensitive (engine.cell partner other)) := by
  simp only [Predicate.holds, Predicate.eval, Atomic.eval, Comparison.eval, eval_keyIn_first,
    eval_keyIn_second apart]
  cases keyValue engine caseSensitive (engine.cell row column) with
  | none => rfl
  | some left =>
      cases keyValue engine caseSensitive (engine.cell partner other) with
      | none => rfl
      | some right =>
          show (some (engine.equal left right) == some true) = engine.equal left right
          cases engine.equal left right <;> rfl

private theorem isSome_keyValue (caseSensitive : Bool) (value : Option V) :
    (keyValue engine caseSensitive value).isSome = value.isSome := by
  unfold keyValue
  cases caseSensitive with
  | false => exact Option.isSome_map
  | true => rfl

end Reading

section Written

variable {runtime : Runtime} {parameters : Dict}

theorem filterClause_eq :
    filterClause runtime (parameters.get "filter_expression") = filterWhere runtime parameters := by
  unfold filterClause filterWhere
  rw [phrase_filterCondition]

end Written

/-! ## Keys of another dataset -/

/-- A compiled rule of the mode `cross_dataset`, before it is written as SQL. -/
structure CrossDatasetCheck where
  table : Phrase
  cross : String
  column : String
  other : String
  caseSensitive : Bool
  filter : Value

namespace CrossDatasetCheck

section Query

variable (runtime : Runtime) (check : CrossDatasetCheck)

def key : Expr := keyIn check.caseSensitive "t" check.column

def joinCond : Predicate :=
  .atom (.compare .equal check.key (keyIn check.caseSensitive "c" check.other))

def conditions : List Predicate := presentIn "t" check.column :: filterCondition runtime check.filter

def total : Phrase :=
  "(SELECT COUNT(*) FROM " ++ check.table ++ " t " ++ filterClause runtime check.filter ++ ")"

def duplicates : Phrase :=
  "(SELECT COUNT(*) FROM " ++ check.table ++ " t WHERE " ++ check.key.phrase ++
    " IN (SELECT key_val FROM overlaps))"

def query : Query Phrase where
  opening := "\n            WITH overlaps AS (\n                SELECT DISTINCT " ++ check.key.phrase ++
    " as key_val\n                FROM " ++ (check.table ++ " t\n                INNER JOIN " ++
      raw check.cross ++ " c ON " ++ check.joinCond.phrase) ++ "\n                " ++
    whereAll ((check.conditions runtime).map Predicate.phrase) ++
    "\n            )\n            SELECT\n                "
  columns := uniquenessColumns
    [("total_rows", .rows (check.total runtime)),
      ("duplicate_groups", .rows "(SELECT COUNT(*) FROM overlaps)"),
      ("duplicate_rows", .rows check.duplicates), ("max_group_size", .constant 1)]
    (.rows (check.total runtime)) (.rows check.duplicates)
  separator := ",\n                "
  closing := ""

end Query

private theorem chars_written {check : CrossDatasetCheck} :
    check.key.phrase.chars =
        (if check.caseSensitive then "t." ++ name check.column
          else "LOWER(t." ++ name check.column ++ "::text)" : Phrase).chars ∧
      check.joinCond.phrase.chars =
        (if check.caseSensitive then "t." ++ name check.column ++ " = c." ++ name check.other
          else "LOWER(t." ++ name check.column ++ "::text) = LOWER(c." ++ name check.other ++
            "::text)" : Phrase).chars := by
  unfold joinCond key keyIn
  cases check.caseSensitive <;>
    simp [Predicate.phrase, Atomic.phrase, Expr.phrase, ColumnRef.phrase, Comparison.operator]

section Rows

variable {Row V : Type} (runtime : Runtime) (engine : Engine Row V) (check : CrossDatasetCheck)
  (rows others : List Row)

def joins (row other : Row) : Bool := check.joinCond.holds (engine.paired "t" "c") (row, some other)

def overlaps : List (Option V) :=
  representatives (bothOr engine.equal)
    (((Sql.innerJoin (check.joins engine) others rows).filter fun pair =>
      admits (engine.paired "t" "c") pair (check.conditions runtime)).map
        (check.key.eval (engine.paired "t" "c")))

def overlapping (row : Row) : Bool :=
  engine.isIn (check.key.eval (engine.paired "t" "c") (row, none))
    (check.overlaps runtime engine rows others) == some true

def countedTotal : Nat := (rows.filter (inFilter runtime engine check.filter)).length

def countedDuplicates : Nat := rows.countP (check.overlapping runtime engine rows others)

def returned : Dict :=
  uniquenessRow
    [("total_rows", check.countedTotal runtime engine rows),
      ("duplicate_groups", (check.overlaps runtime engine rows others).length),
      ("duplicate_rows", check.countedDuplicates runtime engine rows others), ("max_group_size", 1)]
    (check.countedTotal runtime engine rows) (check.countedDuplicates runtime engine rows others)

def sameKey (row other : Row) : Bool :=
  engine.bothEqual (keyValue engine check.caseSensitive (engine.cell row check.column))
    (keyValue engine check.caseSensitive (engine.cell other check.column))

def hasPartner (row : Row) : Bool := others.any (check.joins engine row)

/-- The rows outside the filter that share the key of a row inside, and have a partner, are no more
than the rows inside that have none. -/
def Balanced : Prop :=
  (rows.countP fun row => !inFilter runtime engine check.filter row &&
      (check.hasPartner engine others row && rows.any fun other =>
        inFilter runtime engine check.filter other && check.sameKey engine row other)) ≤
    rows.countP fun row => inFilter runtime engine check.filter row && !check.hasPartner engine others row

end Rows

section Bounds

variable {Row V : Type} {runtime : Runtime} {engine : Engine Row V} {check : CrossDatasetCheck}
  {rows others : List Row}

theorem joins_eq (row other : Row) :
    check.joins engine row other =
      engine.bothEqual (keyValue engine check.caseSensitive (engine.cell row check.column))
        (keyValue engine check.caseSensitive (engine.cell other check.other)) :=
  holds_sameKeyIn (by decide) _ _ _ _ _

theorem eval_key (pair : Row × Option Row) :
    check.key.eval (engine.paired "t" "c") pair =
      keyValue engine check.caseSensitive (engine.cell pair.1 check.column) :=
  eval_keyIn_first _ _ _

private theorem mem_joined {key : Option V} :
    key ∈ ((Sql.innerJoin (check.joins engine) others rows).filter fun pair =>
        admits (engine.paired "t" "c") pair (check.conditions runtime)).map
          (check.key.eval (engine.paired "t" "c")) ↔
      ∃ row ∈ rows, inFilter runtime engine check.filter row = true ∧
        check.hasPartner engine others row = true ∧
          keyValue engine check.caseSensitive (engine.cell row check.column) = key := by
  have conditions : ∀ pair : Row × Option Row,
      admits (engine.paired "t" "c") pair (check.conditions runtime) =
        ((engine.cell pair.1 check.column).isSome && inFilter runtime engine check.filter pair.1) := by
    intro pair
    have split : check.conditions runtime =
        [presentIn "t" check.column] ++ filterCondition runtime check.filter := rfl
    rw [split, admits_append, admits_paired, admits_single, presentIn, Predicate.holds_isNotNull]
    congr 1
    simp [Expr.isNull, Expr.eval, Engine.paired, Engine.joined, Engine.cell]
  constructor
  · intro member
    obtain ⟨pair, kept, rfl⟩ := List.mem_map.mp member
    obtain ⟨joined, admitted⟩ := List.mem_filter.mp kept
    obtain ⟨row, present, inside⟩ := List.mem_flatMap.mp joined
    obtain ⟨other, partner, rfl⟩ := List.mem_map.mp inside
    obtain ⟨found, matched⟩ := List.mem_filter.mp partner
    rw [conditions, Bool.and_eq_true] at admitted
    exact ⟨row, present, admitted.2, List.any_eq_true.mpr ⟨other, found, matched⟩,
      (eval_key (row, some other)).symm⟩
  · intro given
    obtain ⟨row, present, filtered, partnered, same⟩ := given
    obtain ⟨other, found, matched⟩ := List.any_eq_true.mp partnered
    obtain ⟨_, _, known, _, _⟩ := Engine.bothEqual_iff.mp ((joins_eq row other).symm.trans matched)
    have some : (engine.cell row check.column).isSome = true := by
      rw [← @isSome_keyValue _ _ engine check.caseSensitive, known]
      rfl
    refine List.mem_map.mpr ⟨(row, .some other), List.mem_filter.mpr ⟨?_, ?_⟩, ?_⟩
    · exact List.mem_flatMap.mpr ⟨row, present, List.mem_map_of_mem (List.mem_filter.mpr ⟨found, matched⟩)⟩
    · rw [conditions, Bool.and_eq_true]
      exact ⟨some, filtered⟩
    · exact (eval_key _).trans same

private theorem hasPartner_of_sameKey (equating : Equating engine.equal) {row other : Row}
    (same : check.sameKey engine row other = true)
    (partnered : check.hasPartner engine others other = true) :
    check.hasPartner engine others row = true := by
  obtain ⟨partner, found, matched⟩ := List.any_eq_true.mp partnered
  rw [joins_eq] at matched
  refine List.any_eq_true.mpr ⟨partner, found, ?_⟩
  rw [joins_eq]
  exact Engine.bothEqual_trans equating same matched

theorem overlapping_iff (equating : Equating engine.equal) {row : Row} :
    check.overlapping runtime engine rows others row = true ↔
      check.hasPartner engine others row = true ∧
        (rows.any fun other => inFilter runtime engine check.filter other &&
          check.sameKey engine row other) = true := by
  unfold overlapping
  rw [beq_iff_eq, Engine.isIn_eq_true, eval_key]
  constructor
  · intro ⟨key, distinct, same⟩
    obtain ⟨other, present, filtered, partnered, rfl⟩ :=
      mem_joined.mp (List.pwFilter_subset _ distinct)
    refine ⟨hasPartner_of_sameKey equating same partnered, List.any_eq_true.mpr ⟨other, present, ?_⟩⟩
    rw [filtered]
    exact same
  · intro ⟨partnered, shared⟩
    obtain ⟨other, present, both⟩ := List.any_eq_true.mp shared
    obtain ⟨filtered, same⟩ := Bool.and_eq_true _ _ ▸ both
    have turned : check.sameKey engine other row = true := Engine.bothEqual_symm equating same
    have member := (@mem_joined _ _ runtime engine check rows others _).mpr
      ⟨other, present, filtered, hasPartner_of_sameKey equating turned partnered, rfl⟩
    obtain ⟨key, chosen, like⟩ := exists_representative (bothOr_equating equating) member
    obtain ⟨_, second, _, known, _⟩ := Engine.bothEqual_iff.mp same
    refine ⟨key, chosen, Engine.bothEqual_trans equating same ?_⟩
    rw [known] at like ⊢
    cases key with
    | none => cases like
    | some key => exact equating.symm like

theorem overlapping_of_inFilter (equating : Equating engine.equal) {row : Row} (member : row ∈ rows)
    (filtered : inFilter runtime engine check.filter row = true) :
    check.overlapping runtime engine rows others row = check.hasPartner engine others row := by
  rw [Bool.eq_iff_iff, overlapping_iff equating]
  refine ⟨And.left, fun partnered => ⟨partnered, List.any_eq_true.mpr ⟨row, member, ?_⟩⟩⟩
  obtain ⟨partner, _, matched⟩ := List.any_eq_true.mp partnered
  rw [joins_eq] at matched
  rw [filtered]
  exact Engine.bothEqual_trans equating matched (Engine.bothEqual_symm equating matched)

theorem countedDuplicates_le_iff (equating : Equating engine.equal) :
    check.countedDuplicates runtime engine rows others ≤ check.countedTotal runtime engine rows ↔
      check.Balanced runtime engine rows others := by
  have duplicates : check.countedDuplicates runtime engine rows others =
      (rows.countP fun row => inFilter runtime engine check.filter row &&
        check.hasPartner engine others row) +
      rows.countP fun row => !inFilter runtime engine check.filter row &&
        (check.hasPartner engine others row && rows.any fun other =>
          inFilter runtime engine check.filter other && check.sameKey engine row other) := by
    rw [← countP_or fun row _ both => ?_]
    swap
    · simp only [Bool.and_eq_true, Bool.not_eq_true'] at both
      exact Bool.false_ne_true (both.2.1.symm.trans both.1.1)
    refine List.countP_congr fun row member => ?_
    cases filtered : inFilter runtime engine check.filter row with
    | false => simp [overlapping_iff equating]
    | true => simp [overlapping_of_inFilter equating member filtered]
  have total : check.countedTotal runtime engine rows =
      (rows.countP fun row => inFilter runtime engine check.filter row &&
        check.hasPartner engine others row) +
      rows.countP fun row => inFilter runtime engine check.filter row &&
        !check.hasPartner engine others row := by
    rw [← countP_or fun row _ both => ?_]
    swap
    · simp only [Bool.and_eq_true, Bool.not_eq_true'] at both
      exact Bool.false_ne_true (both.2.2.symm.trans both.1.2)
    refine List.countP_eq_length_filter.symm.trans (List.countP_congr fun row _ => ?_)
    cases check.hasPartner engine others row <;> simp
  unfold Balanced
  omega

end Bounds

end CrossDatasetCheck

section Compiled

variable {runtime : Runtime} {table : Phrase} {column : String} {parameters : Dict}
  {compiled : Compiled}

def crossDatasetCheck (runtime : Runtime) (table : Phrase) (parameters : Dict) (chosen : Value) :
    CrossDatasetCheck where
  table := table
  cross := runtime.str (parameters.get "cross_dataset_name")
  column := runtime.str chosen
  other := runtime.str (parameters.get "cross_dataset_column")
  caseSensitive := (parameters.getD "case_sensitive" (.bool true)).truthy
  filter := parameters.get "filter_expression"

theorem crossDataset_rule
    (success : uniquenessCrossDataset runtime table column parameters = .ok (.compiled compiled)) :
    ∃ chosen, (keyColumns column parameters).first = .ok chosen ∧
      compiled.query.phrase.text =
        ((crossDatasetCheck runtime table parameters chosen).query runtime).phrase.text := by
  simp only [uniquenessCrossDataset] at success
  split at success
  · cases success
  · split at success
    · cases success
    · obtain ⟨chosen, first, success⟩ := bind_eq_ok success
      obtain rfl := Outcome.compiled.inj (Except.ok.inj success)
      have written := @CrossDatasetCheck.chars_written (crossDatasetCheck runtime table parameters chosen)
      have conditions : (whereAll (((crossDatasetCheck runtime table parameters chosen).conditions
          runtime).map Predicate.phrase)).chars =
        (whereAll (["t." ++ name (runtime.str chosen) ++ " IS NOT NULL"] ++
          filterPart runtime (parameters.get "filter_expression"))).chars := by
        rw [CrossDatasetCheck.conditions, List.map_cons, phrase_filterCondition]
        rfl
      refine ⟨chosen, first, Query.text_congr ?_ rfl ?_ rfl⟩
      · simp only [CrossDatasetCheck.query, Phrase.chars_append, written.1, written.2, conditions]
        rfl
      · simp only [CrossDatasetCheck.query, CrossDatasetCheck.total, CrossDatasetCheck.duplicates,
          uniquenessColumns, List.map_cons, List.map_nil, List.cons_append, List.nil_append,
          Column.named, Column.phrase, Aggregate.phrase, Tally.phrase, Function.comp_apply,
          Phrase.chars_append, written.1]
        simp only [crossDatasetCheck, filterClause_eq]
        rfl

end Compiled

end CogniDQ.Rules
