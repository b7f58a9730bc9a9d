import CogniDQ.Execution.ResultNormalizer
import Mathlib.Tactic.Linarith
import Mathlib.Tactic.NormNum

/-!
# What normalized rows are drawn from

The fields of a normalized row, and the columns of the violating row that each is drawn from: rows
that agree in these agree in the field, and a column that is drawn from shows.
-/

set_option autoImplicit false

namespace CogniDQ.Execution

open CogniDQ.Python

section Columns

def observedKeys (dimension : Value) : List String :=
  if dimension.is "completeness" then []
  else if dimension.is "validity" then ["observed_value", "value"]
  else if dimension.is "uniqueness" then ["duplicate_key", "value"]
  else if dimension.is "conformity" then ["observed_value", "value"]
  else if dimension.is "consistency" then ["actual_value", "observed_value"]
  else if dimension.is "timeliness" then ["timestamp", "observed_value"]
  else if dimension.is "accuracy" then ["actual_value", "observed_value"]
  else if dimension.is "reconciliation" then ["source_key", "key", "value"]
  else ["observed_value"]

def expectedKeys (dimension : Value) : List String :=
  if dimension.is "completeness" then []
  else if dimension.is "validity" then ["expected_value"]
  else if dimension.is "uniqueness" then []
  else if dimension.is "conformity" then ["expected_pattern"]
  else if dimension.is "consistency" then ["expected_value"]
  else if dimension.is "timeliness" then ["max_age", "expected_value"]
  else if dimension.is "accuracy" then ["reference_value", "expected_value"]
  else if dimension.is "reconciliation" then ["match_status"]
  else ["expected_value"]

/-- The columns that are read as floats, which raises an error where they are too large. -/
def raisingKeys (dimension : Value) : List String :=
  if dimension.is "consistency" then ["actual_value", "observed_value", "expected_value"]
  else if dimension.is "timeliness" then ["age_seconds", "deviation"]
  else if dimension.is "accuracy" then
    ["actual_value", "observed_value", "reference_value", "expected_value"]
  else []

def reasonKeys (dimension : Value) : List String :=
  if dimension.is "completeness" then ["column", "column_name"]
  else if dimension.is "uniqueness" then ["duplicate_count", "count"]
  else if dimension.is "timeliness" then ["age_seconds", "deviation"]
  else if dimension.is "reconciliation" then ["match_status", "side"]
  else []

def businessKeys : List String := ["row_identifier", "business_key", "key"]

/-- A field of a normalized row is drawn from a column of the violating row. -/
inductive Draws (dimension : Value) : String → String → Prop where
  | businessKey {col} : col ∈ businessKeys → Draws dimension "business_key" col
  | observed {col} : col ∈ observedKeys dimension → Draws dimension "observed_value" col
  | expected {col} : col ∈ expectedKeys dimension → Draws dimension "expected_value" col
  | reason {col} : col ∈ reasonKeys dimension → Draws dimension "issue_reason" col
  | metadata {col} : col ∉ skipKeys → Draws dimension "metadata" col

end Columns

section Agreement

variable {runtime : Runtime} {dimension subtype : Value} {first second : Dict}

theorem firstOf_congr {keys : List String}
    (agree : ∀ key ∈ keys, first.get key = second.get key) :
    firstOf first keys = firstOf second keys := by
  induction keys with
  | nil => rfl
  | cons key rest ih =>
    have head := agree key List.mem_cons_self
    have tail := ih fun other member => agree other (List.mem_cons_of_mem _ member)
    cases rest with
    | nil => exact head
    | cons next rest =>
      show (first.get key).or _ = (second.get key).or _
      rw [head, tail]

/-- What stands for an expected value that is not given, where something does. -/
def expectedDefault (dimension : Value) : Option Value :=
  if dimension.is "completeness" then some (.str "NOT NULL")
  else if dimension.is "validity" then some (.str "valid per rule")
  else if dimension.is "uniqueness" then some (.str "unique")
  else if dimension.is "conformity" then some (.str "conforming to format")
  else if dimension.is "reconciliation" then some (.str "matched in target")
  else none

def observed (dimension : Value) (violation : Dict) : Value :=
  match observedKeys dimension with
  | [] => .str "NULL"
  | keys => firstOf violation keys

def expected (dimension : Value) (violation : Dict) : Value :=
  match expectedDefault dimension with
  | some default => (firstOf violation (expectedKeys dimension)).or default
  | none => firstOf violation (expectedKeys dimension)

def deviation (runtime : Runtime) (dimension : Value) (violation : Dict) : Except Exn Cell :=
  if dimension.is "consistency" ∨ dimension.is "accuracy" then
    deviationOf runtime (observed dimension violation) (expected dimension violation)
  else if dimension.is "timeliness" then
    safeFloat runtime (firstOf violation ["age_seconds", "deviation"])
  else .ok (.held .none)

theorem extractObservedExpected_eq (violation : Dict) :
    extractObservedExpected runtime dimension violation =
      (deviation runtime dimension violation).map fun deviation =>
        (observed dimension violation, expected dimension violation, deviation) := by
  by_cases completeness : dimension.is "completeness" = true
  · obtain rfl := Value.is_iff.mp completeness
    rfl
  by_cases validity : dimension.is "validity" = true
  · obtain rfl := Value.is_iff.mp validity
    rfl
  by_cases uniqueness : dimension.is "uniqueness" = true
  · obtain rfl := Value.is_iff.mp uniqueness
    rfl
  by_cases conformity : dimension.is "conformity" = true
  · obtain rfl := Value.is_iff.mp conformity
    rfl
  by_cases consistency : dimension.is "consistency" = true
  · obtain rfl := Value.is_iff.mp consistency
    rfl
  by_cases timeliness : dimension.is "timeliness" = true
  · obtain rfl := Value.is_iff.mp timeliness
    rfl
  by_cases accuracy : dimension.is "accuracy" = true
  · obtain rfl := Value.is_iff.mp accuracy
    rfl
  by_cases reconciliation : dimension.is "reconciliation" = true
  · obtain rfl := Value.is_iff.mp reconciliation
    rfl
  have others : observedKeys dimension = ["observed_value"] ∧
      expectedKeys dimension = ["expected_value"] ∧ expectedDefault dimension = none := by
    unfold observedKeys expectedKeys expectedDefault
    simp only [if_neg completeness, if_neg validity, if_neg uniqueness, if_neg conformity,
      if_neg consistency, if_neg timeliness, if_neg accuracy, if_neg reconciliation, and_self]
  unfold extractObservedExpected deviation observed expected
  rw [others.1, others.2.1, others.2.2]
  simp only [if_neg completeness, if_neg validity, if_neg uniqueness, if_neg conformity,
    if_neg consistency, if_neg timeliness, if_neg accuracy, if_neg reconciliation,
    if_neg (not_or.mpr ⟨consistency, accuracy⟩)]
  rfl

theorem observed_congr (agree : ∀ key ∈ observedKeys dimension, first.get key = second.get key) :
    observed dimension first = observed dimension second := by
  unfold observed
  have same := firstOf_congr agree
  split
  · rfl
  · exact same

theorem expected_congr (agree : ∀ key ∈ expectedKeys dimension, first.get key = second.get key) :
    expected dimension first = expected dimension second := by
  unfold expected
  rw [firstOf_congr agree]

theorem deviation_congr (agree : ∀ key ∈ raisingKeys dimension, first.get key = second.get key) :
    deviation runtime dimension first = deviation runtime dimension second := by
  by_cases consistency : dimension.is "consistency" = true
  · obtain rfl := Value.is_iff.mp consistency
    have actual := agree "actual_value" (by decide)
    have seen := agree "observed_value" (by decide)
    have wanted := agree "expected_value" (by decide)
    show deviationOf runtime ((first.get "actual_value").or (first.get "observed_value"))
        (first.get "expected_value") =
      deviationOf runtime ((second.get "actual_value").or (second.get "observed_value"))
        (second.get "expected_value")
    rw [actual, seen, wanted]
  by_cases timeliness : dimension.is "timeliness" = true
  · obtain rfl := Value.is_iff.mp timeliness
    have age : firstOf first ["age_seconds", "deviation"] =
        firstOf second ["age_seconds", "deviation"] := firstOf_congr agree
    show safeFloat runtime (firstOf first ["age_seconds", "deviation"]) =
      safeFloat runtime (firstOf second ["age_seconds", "deviation"])
    rw [age]
  by_cases accuracy : dimension.is "accuracy" = true
  · obtain rfl := Value.is_iff.mp accuracy
    have actual := agree "actual_value" (by decide)
    have seen := agree "observed_value" (by decide)
    have reference := agree "reference_value" (by decide)
    have wanted := agree "expected_value" (by decide)
    show deviationOf runtime ((first.get "actual_value").or (first.get "observed_value"))
        ((first.get "reference_value").or (first.get "expected_value")) =
      deviationOf runtime ((second.get "actual_value").or (second.get "observed_value"))
        ((second.get "reference_value").or (second.get "expected_value"))
    rw [actual, seen, reference, wanted]
  unfold deviation
  rw [if_neg (not_or.mpr ⟨consistency, accuracy⟩), if_neg (not_or.mpr ⟨consistency, accuracy⟩),
    if_neg timeliness, if_neg timeliness]

theorem buildIssueReason_congr
    (agree : ∀ key ∈ reasonKeys dimension, first.get key = second.get key) :
    buildIssueReason runtime dimension subtype first =
      buildIssueReason runtime dimension subtype second := by
  have same := firstOf_congr agree
  by_cases completeness : dimension.is "completeness" = true
  · obtain rfl := Value.is_iff.mp completeness
    have columns : firstOf first ["column", "column_name"] =
        firstOf second ["column", "column_name"] := same
    unfold buildIssueReason
    simp only [if_pos completeness, columns]
  by_cases uniqueness : dimension.is "uniqueness" = true
  · obtain rfl := Value.is_iff.mp uniqueness
    have count : firstOf first ["duplicate_count", "count"] =
        firstOf second ["duplicate_count", "count"] := same
    unfold buildIssueReason
    simp only [if_neg completeness, if_pos uniqueness, count]
  by_cases timeliness : dimension.is "timeliness" = true
  · obtain rfl := Value.is_iff.mp timeliness
    have age : firstOf first ["age_seconds", "deviation"] =
        firstOf second ["age_seconds", "deviation"] := same
    unfold buildIssueReason
    simp only [if_neg completeness, if_neg uniqueness, if_pos timeliness, age]
  by_cases reconciliation : dimension.is "reconciliation" = true
  · obtain rfl := Value.is_iff.mp reconciliation
    have status : firstOf first ["match_status", "side"] =
        firstOf second ["match_status", "side"] := same
    unfold buildIssueReason
    simp only [if_neg completeness, if_neg uniqueness, if_neg timeliness, if_pos reconciliation,
      status]
  unfold buildIssueReason
  simp only [if_neg completeness, if_neg uniqueness, if_neg timeliness, if_neg reconciliation]

end Agreement

section Leaks

variable {runtime : Runtime} {dimension subtype : Value} {col : String} {keys : List String}

def lone (col : String) (value : Value) : Dict := [(col, value)]

theorem get_lone_self (col : String) (value : Value) : (lone col value).get col = value := by
  simp [lone, Dict.get, Dict.getD]

theorem get_lone_of_ne {key : String} (value : Value) (other : key ≠ col) :
    (lone col value).get key = .none := by
  have skipped : (key == col) = false := by simpa using other
  simp [lone, Dict.get, Dict.getD, List.lookup_cons, skipped]

theorem firstOf_lone {text : String} (member : col ∈ keys) (given : text ≠ "") :
    firstOf (lone col (.str text)) keys = .str text := by
  have truthy : (Value.str text).truthy = true := by simpa [Value.truthy] using given
  induction keys with
  | nil => cases member
  | cons key rest ih =>
    by_cases here : key = col
    · subst here
      cases rest with
      | nil => exact get_lone_self key _
      | cons next rest =>
        show ((lone key (.str text)).get key).or _ = _
        rw [get_lone_self]
        exact if_pos truthy
    · have later : col ∈ rest := (List.mem_cons.mp member).resolve_left fun same => here same.symm
      cases rest with
      | nil => cases later
      | cons next rest =>
        show ((lone col (.str text)).get key).or _ = _
        rw [get_lone_of_ne _ here]
        exact ih later

private theorem firstOf_lone_of_not_mem {value : Value} (absent : col ∉ keys) :
    firstOf (lone col value) keys = .none := by
  induction keys with
  | nil => rfl
  | cons key rest ih =>
    have here : key ≠ col := fun same => absent (same ▸ List.mem_cons_self)
    have later := ih fun member => absent (List.mem_cons_of_mem _ member)
    cases rest with
    | nil => exact get_lone_of_ne _ here
    | cons next rest =>
      show ((lone col value).get key).or _ = _
      rw [get_lone_of_ne _ here, later]
      rfl

theorem observed_lone {text : String} (member : col ∈ observedKeys dimension) (given : text ≠ "") :
    observed dimension (lone col (.str text)) = .str text := by
  unfold observed
  split
  · next none =>
    rw [none] at member
    cases member
  · exact firstOf_lone member given

theorem expected_lone {text : String} (member : col ∈ expectedKeys dimension) (given : text ≠ "") :
    expected dimension (lone col (.str text)) = .str text := by
  have truthy : (Value.str text).truthy = true := by simpa [Value.truthy] using given
  unfold expected
  rw [firstOf_lone member given]
  split
  · exact if_pos truthy
  · rfl

theorem deviation_lone {value : Value} (absent : col ∉ raisingKeys dimension) :
    deviation runtime dimension (lone col value) = .ok (.held .none) := by
  by_cases consistency : dimension.is "consistency" = true
  · obtain rfl := Value.is_iff.mp consistency
    have unread : firstOf (lone col value) ["actual_value", "observed_value"] = .none :=
      firstOf_lone_of_not_mem fun member => absent (by
        rcases List.mem_pair.mp member with rfl | rfl <;> decide)
    show deviationOf runtime (firstOf (lone col value) ["actual_value", "observed_value"]) _ = _
    rw [unread]
    rfl
  by_cases timeliness : dimension.is "timeliness" = true
  · obtain rfl := Value.is_iff.mp timeliness
    have unread : firstOf (lone col value) ["age_seconds", "deviation"] = .none :=
      firstOf_lone_of_not_mem absent
    show safeFloat runtime (firstOf (lone col value) ["age_seconds", "deviation"]) = _
    rw [unread]
    rfl
  by_cases accuracy : dimension.is "accuracy" = true
  · obtain rfl := Value.is_iff.mp accuracy
    have unread : firstOf (lone col value) ["actual_value", "observed_value"] = .none :=
      firstOf_lone_of_not_mem fun member => absent (by
        rcases List.mem_pair.mp member with rfl | rfl <;> decide)
    show deviationOf runtime (firstOf (lone col value) ["actual_value", "observed_value"]) _ = _
    rw [unread]
    rfl
  unfold deviation
  rw [if_neg (not_or.mpr ⟨consistency, accuracy⟩), if_neg timeliness]

theorem buildIssueReason_lone (member : col ∈ reasonKeys dimension) :
    buildIssueReason runtime dimension subtype (lone col (.str "a")) ≠
      buildIssueReason runtime dimension subtype (lone col (.str "b")) := by
  have shown (text : String) (given : text ≠ "") := firstOf_lone member given
  have first : (Value.str "a").truthy = true := rfl
  have second : (Value.str "b").truthy = true := rfl
  by_cases completeness : dimension.is "completeness" = true
  · obtain rfl := Value.is_iff.mp completeness
    have column (text : String) (given : text ≠ "") :
        (firstOf (lone col (.str text)) ["column", "column_name"]).or (.str "") = .str text := by
      rw [show firstOf (lone col (.str text)) ["column", "column_name"] = .str text from
        shown text given]
      exact if_pos (by simpa [Value.truthy] using given)
    unfold buildIssueReason
    simp only [if_pos completeness, column "a" (by decide), column "b" (by decide), first, second,
      if_true, Runtime.str_str]
    split_ifs
    · decide
    · decide
    · decide
    · intro same
      have texts := congrArg String.toList same
      simp at texts
  by_cases uniqueness : dimension.is "uniqueness" = true
  · obtain rfl := Value.is_iff.mp uniqueness
    have count (text : String) (given : text ≠ "") :
        firstOf (lone col (.str text)) ["duplicate_count", "count"] = .str text := shown text given
    unfold buildIssueReason
    simp only [if_neg completeness, if_pos uniqueness, count "a" (by decide),
      count "b" (by decide), first, second, if_true, Runtime.str_str]
    show "Duplicate value found (" ++ "a" ++ " occurrences)" ≠
      "Duplicate value found (" ++ "b" ++ " occurrences)"
    decide
  by_cases timeliness : dimension.is "timeliness" = true
  · obtain rfl := Value.is_iff.mp timeliness
    have age (text : String) (given : text ≠ "") :
        firstOf (lone col (.str text)) ["age_seconds", "deviation"] = .str text := shown text given
    unfold buildIssueReason
    simp only [if_neg completeness, if_neg uniqueness, if_pos timeliness, age "a" (by decide),
      age "b" (by decide), Value.isNone, Runtime.str_str]
    show "Record exceeds maximum allowed age (" ++ "a" ++ "s)" ≠
      "Record exceeds maximum allowed age (" ++ "b" ++ "s)"
    decide
  by_cases reconciliation : dimension.is "reconciliation" = true
  · obtain rfl := Value.is_iff.mp reconciliation
    have status (text : String) (given : text ≠ "") :
        firstOf (lone col (.str text)) ["match_status", "side"] = .str text := shown text given
    unfold buildIssueReason
    simp only [if_neg completeness, if_neg uniqueness, if_neg timeliness, if_pos reconciliation,
      status "a" (by decide), status "b" (by decide), first, second, if_true, Runtime.str_str]
    show "Record " ++ "a" ≠ "Record " ++ "b"
    decide
  unfold reasonKeys at member
  rw [if_neg completeness, if_neg uniqueness, if_neg timeliness, if_neg reconciliation] at member
  cases member

def tooLarge : Int := 2 ^ 1024

private theorem one_lt_limit : 1 < Double.limit := by
  unfold Double.limit
  have divided : (2 : Rat) ^ 1024 = 2 ^ 970 * 2 ^ 54 := (pow_add 2 970 54)
  have least : (1 : Rat) ≤ 2 ^ 970 := one_le_pow₀ (by norm_num)
  have factor : (3 : Rat) ≤ 2 ^ 54 := by norm_num
  have product := mul_le_mul_of_nonneg_left factor (zero_le_one.trans least)
  rw [divided]
  generalize (2 : Rat) ^ 970 = whole at least product ⊢
  generalize (2 : Rat) ^ 54 = part at product ⊢
  linarith

private theorem limit_le_tooLarge : Double.limit ≤ (tooLarge : Rat) := by
  have positive : (0 : Rat) ≤ 2 ^ 970 := pow_nonneg (by norm_num) 970
  unfold Double.limit tooLarge
  rw [Int.cast_pow, Int.cast_ofNat]
  exact sub_le_self _ positive

private theorem tooLarge_ne_zero : tooLarge ≠ 0 := pow_ne_zero 1024 (by decide)

theorem toFloat_tooLarge : toFloat runtime (.int tooLarge) = .error .overflowError :=
  if_pos (.inr limit_le_tooLarge)

theorem toFloat_one (runtime : Runtime) : ∃ value, toFloat runtime (.int 1) = .ok value := by
  have below := one_lt_limit
  refine ⟨_, if_neg ?_⟩
  rw [Int.cast_one, not_or]
  exact ⟨by linarith, by linarith⟩

/-- A row with a column that is read as a float, and another one that it may be compared with. -/
def paired (col : String) (value : Int) : Dict :=
  [(col, .int value),
    (if col = "expected_value" ∨ col = "reference_value" then "actual_value" else "expected_value",
      .int 1)]

private theorem deviationOf_tooLarge (runtime : Runtime) :
    deviationOf runtime (.int tooLarge) (.int 1) = .error .overflowError ∧
      deviationOf runtime (.int 1) (.int tooLarge) = .error .overflowError := by
  obtain ⟨one, read⟩ := toFloat_one runtime
  unfold deviationOf
  constructor
  · simp [Value.isNone, toFloat_tooLarge, suppress, bind, Except.bind]
  · simp [Value.isNone, toFloat_tooLarge, read, suppress, bind, Except.bind]

private theorem deviationOf_one (runtime : Runtime) :
    ∃ cell, deviationOf runtime (.int 1) (.int 1) = .ok cell := by
  obtain ⟨one, read⟩ := toFloat_one runtime
  unfold deviationOf
  simp [Value.isNone, read, suppress, bind, Except.bind, pure, Except.pure]

theorem safeFloat_int (runtime : Runtime) :
    safeFloat runtime (.int tooLarge) = .error .overflowError ∧
      ∃ cell, safeFloat runtime (.int 1) = .ok cell := by
  obtain ⟨one, read⟩ := toFloat_one runtime
  unfold safeFloat
  constructor
  · simp [Value.isNone, toFloat_tooLarge, suppress, bind, Except.bind]
  · simp [Value.isNone, read, suppress, bind, Except.bind, pure, Except.pure]

theorem deviation_paired (member : col ∈ raisingKeys dimension) {value : Int} (nonzero : value ≠ 0) :
    deviation runtime dimension (paired col value) = deviationOf runtime (.int value) (.int 1) ∨
    deviation runtime dimension (paired col value) = deviationOf runtime (.int 1) (.int value) ∨
    deviation runtime dimension (paired col value) = safeFloat runtime (.int value) := by
  have given (other : Value) : (Value.int value).or other = .int value :=
    if_pos (by simpa [Value.truthy] using nonzero)
  by_cases consistency : dimension.is "consistency" = true
  · obtain rfl := Value.is_iff.mp consistency
    have columns : col ∈ ["actual_value", "observed_value", "expected_value"] := member
    simp only [List.mem_cons, List.not_mem_nil, or_false] at columns
    rcases columns with rfl | rfl | rfl
    · refine .inl ?_
      show deviationOf runtime ((Value.int value).or .none) (.int 1) = _
      rw [given]
    · exact .inl rfl
    · exact .inr (.inl rfl)
  by_cases timeliness : dimension.is "timeliness" = true
  · obtain rfl := Value.is_iff.mp timeliness
    have columns : col ∈ ["age_seconds", "deviation"] := member
    simp only [List.mem_cons, List.not_mem_nil, or_false] at columns
    refine .inr (.inr ?_)
    rcases columns with rfl | rfl
    · show safeFloat runtime ((Value.int value).or .none) = _
      rw [given]
    · rfl
  by_cases accuracy : dimension.is "accuracy" = true
  · obtain rfl := Value.is_iff.mp accuracy
    have columns : col ∈ ["actual_value", "observed_value", "reference_value", "expected_value"] :=
      member
    simp only [List.mem_cons, List.not_mem_nil, or_false] at columns
    rcases columns with rfl | rfl | rfl | rfl
    · refine .inl ?_
      show deviationOf runtime ((Value.int value).or .none) (.int 1) = _
      rw [given]
    · exact .inl rfl
    · refine .inr (.inl ?_)
      show deviationOf runtime (.int 1) ((Value.int value).or .none) = _
      rw [given]
    · exact .inr (.inl rfl)
  unfold raisingKeys at member
  rw [if_neg consistency, if_neg timeliness, if_neg accuracy] at member
  cases member

theorem deviation_paired_tooLarge (member : col ∈ raisingKeys dimension) :
    deviation runtime dimension (paired col tooLarge) = .error .overflowError := by
  rcases deviation_paired member tooLarge_ne_zero with same | same | same
  · exact same.trans (deviationOf_tooLarge runtime).1
  · exact same.trans (deviationOf_tooLarge runtime).2
  · exact same.trans (safeFloat_int runtime).1

theorem deviation_paired_one (runtime : Runtime) (member : col ∈ raisingKeys dimension) :
    ∃ cell, deviation runtime dimension (paired col 1) = .ok cell := by
  rcases deviation_paired member one_ne_zero with same | same | same
  · exact same ▸ deviationOf_one runtime
  · exact same ▸ deviationOf_one runtime
  · exact same ▸ (safeFloat_int runtime).2

end Leaks

end CogniDQ.Execution
