import Mathlib.Algebra.Order.Floor.Ring
import Mathlib.Data.Rat.Floor
import CogniDQ.Rules.Timeliness
import CogniDQ.Rules.ValidityCheck
import CogniDQ.Sql.Overall

/-!
# What the timeliness queries count

The query of each timeliness type with its conditions as trees, and when its two counts divide the
rows: NULL timestamps, empty tables and windows over midnight are where they need not.
-/

set_option autoImplicit false

namespace CogniDQ.Rules

open CogniDQ.Python CogniDQ.Sql

/-! ## Checks -/

/-- What a timeliness rule looks at: its columns of timestamps, and its limit or window. -/
inductive TimelinessSource where
  | freshness (moment : String) (limit : Int)
  | heartbeat (moment : String) (limit : Int)
  | recordAge (moment : String) (limit : Int)
  | delay (moment other : String) (limit : Int)
  | deliveryWindow (moment : String) (start stop : Nat)

/-- A compiled timeliness rule before it is written as SQL. -/
structure TimelinessCheck where
  total : Count
  others : List (String × Figure)
  timely : Count
  untimely : Count
  conditions : List Predicate

def bareCondition (runtime : Runtime) (filter : Value) : List Predicate :=
  if filter.truthy then [.atom (.supplied (runtime.str filter))] else []

def latestAge (moment : String) : Figure :=
  .unary "EXTRACT(EPOCH FROM (NOW() - " "))" (.greatest (.cell moment))

def ageWithin (comparison : Comparison) (moment : String) (limit : Int) : Verdict :=
  .compare comparison (latestAge moment) (.whole limit)

def missingOr (columns : List String) (condition : Predicate) : Predicate :=
  columns.foldr (fun column rest => .or (.atom (.isNull (.cell column))) rest) condition

def presentAnd (columns : List String) (condition : Predicate) : Predicate :=
  columns.foldr (fun column rest => .and (.atom (.isNotNull (.cell column))) rest) condition

def minutes (moment : String) : Expr :=
  .binary "EXTRACT(HOUR FROM " ") * 60 + EXTRACT(MINUTE FROM " ")" (.cell moment) (.cell moment)

section Checks

variable (runtime : Runtime) (nullHandling filter : Value)

def perRowCheck (columns : List String) (measured : Expr) (limit : Int) : TimelinessCheck :=
  let inTime := Predicate.atom (.compare .lessEqual measured (.whole limit))
  let late := Predicate.atom (.compare .greater measured (.whole limit))
  { total := .size .rows
    others := []
    timely := .sum (.predicate
      (if nullHandling.is "pass" then missingOr columns inTime else inTime))
    untimely := .sum (.predicate
      (if nullHandling.is "pass" then presentAnd columns late else late))
    conditions := (if nullHandling.is "skip" then presence columns else []) ++
      filterCondition runtime filter }

namespace TimelinessSource

def check : TimelinessSource → TimelinessCheck
  | .freshness moment limit =>
      { total := .size .rows
        others := [("most_recent", .greatest (.cell moment)), ("age_seconds", latestAge moment)]
        timely := .choice (ageWithin .lessEqual moment limit) .rows
        untimely := .choice (ageWithin .greater moment limit) .rows
        conditions := bareCondition runtime filter }
  | .heartbeat moment limit =>
      { total := .size (.constant 1)
        others := [("most_recent", .greatest (.cell moment))]
        timely := .choice (.and (.compare .greater (.size .rows) (.whole 0))
          (ageWithin .lessEqual moment limit)) (.constant 1)
        untimely := .choice (.or (.compare .equal (.size .rows) (.whole 0))
          (ageWithin .greater moment limit)) (.constant 1)
        conditions := bareCondition runtime filter }
  | .recordAge moment limit =>
      perRowCheck runtime nullHandling filter [moment]
        (.unary "EXTRACT(EPOCH FROM (NOW() - " "))" (.cell moment)) limit
  | .delay moment other limit =>
      perRowCheck runtime nullHandling filter [moment, other]
        (.binary "ABS(EXTRACT(EPOCH FROM (" " - " ")))" (.cell other) (.cell moment)) limit
  | .deliveryWindow moment start stop =>
      { total := .size .rows
        others := [("most_recent", .greatest (.cell moment))]
        timely := .sum (.between (minutes moment) start stop)
        untimely := .sum (.notBetween (minutes moment) start stop)
        conditions := bareCondition runtime filter }

def moments : TimelinessSource → List String
  | .freshness moment _ | .heartbeat moment _ | .recordAge moment _ | .deliveryWindow moment _ _ =>
      [moment]
  | .delay moment other _ => [moment, other]

def judgesRows : TimelinessSource → Bool
  | .freshness _ _ | .heartbeat _ _ => false
  | _ => true

end TimelinessSource

def TimelinessCheck.query (check : TimelinessCheck) (table : Phrase) : Query Phrase where
  opening := "SELECT "
  columns := timelinessColumns (.rows check.total.phrase)
    (check.others.map fun (key, figure) => (key, figure.phrase)) (.scalar check.timely.phrase)
    (.scalar check.untimely.phrase)
  separator := ", "
  closing := strippedFrom runtime table (whereAll (check.conditions.map Predicate.phrase))

def TimelinessCheck.Renders (check : TimelinessCheck) (table : Phrase) (compiled : Compiled) : Prop :=
  compiled.query.phrase.text = (check.query runtime table).phrase.text

end Checks

/-- What the parameters of each timeliness type say. -/
inductive TimelinessMode (runtime : Runtime) (column : String) (parameters : Dict) :
    String → TimelinessSource → Prop where
  | freshness {limit : Int}
      (limited : parseDurationToSeconds runtime (parameters.get "max_age") = .ok (some limit)) :
      TimelinessMode runtime column parameters "freshness"
        (.freshness (runtime.str (timestampColumn column parameters)) limit)
  | heartbeat {limit : Int}
      (limited : parseDurationToSeconds runtime (parameters.get "expected_frequency") =
        .ok (some limit)) :
      TimelinessMode runtime column parameters "heartbeat"
        (.heartbeat (runtime.str (timestampColumn column parameters)) limit)
  | recordAge {limit : Int}
      (limited : parseDurationToSeconds runtime (parameters.get "max_age") = .ok (some limit)) :
      TimelinessMode runtime column parameters "record_age"
        (.recordAge (runtime.str (timestampColumn column parameters)) limit)
  | delay {type : String} {limit : Int} (delays : type = "latency" ∨ type = "processing_delay")
      (limited : parseDurationToSeconds runtime (parameters.get "max_age") = .ok (some limit)) :
      TimelinessMode runtime column parameters type
        (.delay (runtime.str (timestampColumn column parameters))
          (runtime.str (parameters.get "comparison_timestamp")) limit)
  | deliveryWindow {start stop : Nat}
      (starts : parseWindowTime runtime (parameters.get "delivery_window_start") = some start)
      (stops : parseWindowTime runtime (parameters.get "delivery_window_end") = some stop) :
      TimelinessMode runtime column parameters "delivery_window"
        (.deliveryWindow (runtime.str (timestampColumn column parameters)) start stop)

/-! ## Every compiled rule is a check -/

section Inversion

variable {runtime : Runtime} {table : Phrase} {column : String} {parameters : Dict}
  {compiled : Compiled}

def IsTimelinessCheck (runtime : Runtime) (table : Phrase) (column : String) (parameters : Dict)
    (type : String) (compiled : Compiled) : Prop :=
  ∃ source, TimelinessMode runtime column parameters type source ∧
    (source.check runtime (parameters.getD "null_handling" (.str "fail"))
      (parameters.get "filter_expression")).Renders runtime table compiled

theorem phrase_bareCondition :
    whereAll ((bareCondition runtime (parameters.get "filter_expression")).map Predicate.phrase) =
      bareWhere runtime parameters := by
  unfold bareCondition bareWhere
  dsimp only
  split
  · rfl
  · rfl

theorem seconds_of_durationParameter {key kind : String} {seconds : Int}
    (found : durationParameter runtime parameters key kind = .ok (.ok seconds)) :
    parseDurationToSeconds runtime (parameters.get key) = .ok (some seconds) := by
  simp only [durationParameter] at found
  cases parsed : parseDurationToSeconds runtime (parameters.get key) with
  | error error =>
    rw [parsed] at found
    cases found
  | ok duration =>
    rw [parsed] at found
    cases duration with
    | none => cases found
    | some limit =>
      cases found
      rfl

theorem renders_of_columns {check : TimelinessCheck} {total : Tally Phrase}
    {others : List (String × Phrase)} {timely untimely : Aggregate Phrase}
    {wherePhrase violation : Phrase}
    (columns : (timelinessColumns total others timely untimely).map
        (Phrase.chars ∘ Column.phrase) =
      (check.query runtime table).columns.map (Phrase.chars ∘ Column.phrase))
    (kept : whereAll (check.conditions.map Predicate.phrase) = wherePhrase)
    (success : timelinessCompiled runtime table (timelinessColumns total others timely untimely)
      wherePhrase violation = .compiled compiled) :
    check.Renders runtime table compiled := by
  obtain rfl := Outcome.compiled.inj success
  refine Query.text_congr rfl rfl columns ?_
  rw [← kept]
  rfl

private theorem timelinessFreshness_check
    (success : timelinessFreshness runtime table column parameters = .ok (.compiled compiled)) :
    IsTimelinessCheck runtime table column parameters "freshness" compiled := by
  simp only [timelinessFreshness] at success
  split at success
  · cases success
  · obtain ⟨duration, found, success⟩ := bind_eq_ok success
    cases duration with
    | error message => cases success
    | ok limit =>
      refine ⟨_, .freshness (seconds_of_durationParameter found), ?_⟩
      refine renders_of_columns ?_ phrase_bareCondition (Except.ok.inj success)
      simp [TimelinessCheck.query, TimelinessSource.check, timelinessColumns, Column.phrase,
        Column.named, Aggregate.phrase, Tally.phrase, caseOf, Count.phrase, Size.phrase,
        Figure.phrase, Verdict.phrase, ageWithin, latestAge, secondsSinceLatest,
        Comparison.operator]

private theorem timelinessHeartbeat_check
    (success : timelinessHeartbeat runtime table column parameters = .ok (.compiled compiled)) :
    IsTimelinessCheck runtime table column parameters "heartbeat" compiled := by
  simp only [timelinessHeartbeat] at success
  split at success
  · cases success
  · obtain ⟨duration, found, success⟩ := bind_eq_ok success
    cases duration with
    | error message => cases success
    | ok limit =>
      refine ⟨_, .heartbeat (seconds_of_durationParameter found), ?_⟩
      refine renders_of_columns ?_ phrase_bareCondition (Except.ok.inj success)
      have zero : (Int.repr 0).toList = ['0'] := rfl
      simp [zero, TimelinessCheck.query, TimelinessSource.check, timelinessColumns, Column.phrase,
        Column.named, Aggregate.phrase, Tally.phrase, caseOf, Count.phrase, Size.phrase,
        Figure.phrase, Verdict.phrase, ageWithin, latestAge, secondsSinceLatest,
        Comparison.operator]
      exact ⟨rfl, rfl⟩

private theorem timelinessDeliveryWindow_check
    (success : timelinessDeliveryWindow runtime table column parameters = .ok (.compiled compiled)) :
    IsTimelinessCheck runtime table column parameters "delivery_window" compiled := by
  simp only [timelinessDeliveryWindow] at success
  split at success
  · cases success
  · split at success
    · cases success
    · cases success
    · rename_i start stop starts stops
      refine ⟨_, .deliveryWindow starts stops, ?_⟩
      refine renders_of_columns ?_ phrase_bareCondition (Except.ok.inj success)
      simp [TimelinessCheck.query, TimelinessSource.check, timelinessColumns, Column.phrase,
        Column.named, Aggregate.phrase, Tally.phrase, sumCase, Count.phrase, Size.phrase,
        Figure.phrase, Case.phrase, betweenPhrase, minutes, Expr.phrase]

private theorem phrase_missingOr (columns : List String) (condition : Predicate) :
    (missingOr columns condition).phrase = Phrase.join " OR "
      (columns.map (fun column => (name column ++ " IS NULL" : Phrase)) ++ [condition.phrase]) := by
  induction columns with
  | nil => rfl
  | cons column rest ih =>
    have joined : (missingOr (column :: rest) condition).phrase =
        name column ++ " IS NULL" ++ " OR " ++ (missingOr rest condition).phrase := rfl
    rw [joined, ih]
    cases rest with
    | nil => rfl
    | cons next rest => rfl

private theorem phrase_presentAnd (columns : List String) (condition : Predicate) :
    (presentAnd columns condition).phrase = Phrase.join " AND "
      (columns.map (fun column => (name column ++ " IS NOT NULL" : Phrase)) ++
        [condition.phrase]) := by
  induction columns with
  | nil => rfl
  | cons column rest ih =>
    have joined : (presentAnd (column :: rest) condition).phrase =
        name column ++ " IS NOT NULL" ++ " AND " ++ (presentAnd rest condition).phrase := rfl
    rw [joined, ih]
    cases rest with
    | nil => rfl
    | cons next rest => rfl

/-- The comparison of an age with the limit, as the query has it. -/
def limited (measured : Phrase) (comparison : Comparison) (limit : Int) : Phrase :=
  measured ++ Phrase.ofText (" " ++ comparison.operator ++ " ") ++ Phrase.ofText (toString limit)

private theorem phrase_passing (columns : List String) (nullHandling : Value) (measured : Expr)
    (limit : Int) :
    (if nullHandling.is "pass" then
        missingOr columns (.atom (.compare .lessEqual measured (.whole limit)))
      else .atom (.compare .lessEqual measured (.whole limit))).phrase =
    if nullHandling.is "pass" then Phrase.join " OR "
        ((columns.map name).map (fun chosen => (chosen ++ " IS NULL" : Phrase)) ++
          [limited measured.phrase .lessEqual limit])
      else limited measured.phrase .lessEqual limit := by
  split
  · rw [phrase_missingOr, List.map_map]
    rfl
  · rfl

private theorem phrase_failing (columns : List String) (nullHandling : Value) (measured : Expr)
    (limit : Int) :
    (if nullHandling.is "pass" then
        presentAnd columns (.atom (.compare .greater measured (.whole limit)))
      else .atom (.compare .greater measured (.whole limit))).phrase =
    if nullHandling.is "pass" then Phrase.join " AND "
        ((columns.map name).map (fun chosen => (chosen ++ " IS NOT NULL" : Phrase)) ++
          [limited measured.phrase .greater limit])
      else limited measured.phrase .greater limit := by
  split
  · rw [phrase_presentAnd, List.map_map]
    rfl
  · rfl

private theorem phrase_nulls (first : String) (rest : List String) :
    (if (parameters.getD "null_handling" (.str "fail")).is "skip" then presence (first :: rest)
      else []).map Predicate.phrase =
    timelinessNulls parameters ((first :: rest).map name) := by
  unfold timelinessNulls
  split
  · rw [phrase_presence, List.map_map]
    rfl
  · rfl

theorem renders_of_timelinessPerRow {first : String} {rest : List String} {measured : Expr}
    {written : Phrase} {label : String} {limit : Int} (same : measured.phrase = written)
    (success : timelinessPerRow runtime table parameters ((first :: rest).map name) written label
      limit = .compiled compiled) :
    (perRowCheck runtime (parameters.getD "null_handling" (.str "fail"))
      (parameters.get "filter_expression") (first :: rest) measured limit).Renders
        runtime table compiled := by
  subst same
  refine renders_of_columns ?_ ?_ success
  · simp only [TimelinessCheck.query, perRowCheck, timelinessColumns, Count.phrase, Case.phrase,
      phrase_passing, phrase_failing]
    rfl
  · rw [perRowCheck, List.map_append, phrase_nulls, phrase_filterCondition]

private theorem timelinessRecordAge_check
    (success : timelinessRecordAge runtime table column parameters = .ok (.compiled compiled)) :
    IsTimelinessCheck runtime table column parameters "record_age" compiled := by
  simp only [timelinessRecordAge] at success
  split at success
  · cases success
  · obtain ⟨duration, found, success⟩ := bind_eq_ok success
    cases duration with
    | error message => cases success
    | ok limit =>
      refine ⟨_, .recordAge (seconds_of_durationParameter found), ?_⟩
      exact renders_of_timelinessPerRow rfl (Except.ok.inj success)

private theorem timelinessDelayCommon_check {type : String}
    (delays : type = "latency" ∨ type = "processing_delay")
    (success : timelinessDelayCommon runtime table column parameters type =
      .ok (.compiled compiled)) :
    IsTimelinessCheck runtime table column parameters type compiled := by
  simp only [timelinessDelayCommon] at success
  split at success
  · cases success
  · split at success
    · cases success
    · obtain ⟨duration, found, success⟩ := bind_eq_ok success
      cases duration with
      | error message => cases success
      | ok limit =>
        refine ⟨_, .delay delays (seconds_of_durationParameter found), ?_⟩
        exact renders_of_timelinessPerRow rfl (Except.ok.inj success)

theorem compileTimelinessRule_check
    (success : compileTimelinessRule runtime table column parameters = .ok (.compiled compiled)) :
    ∃ type, (parameters.get "timeliness_type").or (.str (inferTimelinessType parameters)) =
        .str type ∧
      rejects runtime (parameters.get "filter_expression") = .ok false ∧
        IsTimelinessCheck runtime table column parameters type compiled := by
  simp only [compileTimelinessRule] at success
  obtain ⟨known, found, success⟩ := bind_eq_ok success
  split at success
  · cases success
  · rename_i member
    obtain rfl : known = true := by simpa using member
    obtain ⟨type, listed, chosen⟩ := Value.eq_str_of_memberOf found
    obtain ⟨rejected, passed, success⟩ := bind_eq_ok success
    cases rejected with
    | true => cases success
    | false =>
        refine ⟨type, chosen, passed, ?_⟩
        simp only [chosen, Bool.false_eq_true, if_false, Value.is, beq_iff_eq] at success
        split_ifs at success with same same same same same
        · exact same ▸ timelinessFreshness_check success
        · exact same ▸ timelinessRecordAge_check success
        · exact same ▸ timelinessDelayCommon_check (.inl rfl) success
        · exact same ▸ timelinessDelayCommon_check (.inr rfl) success
        · exact same ▸ timelinessDeliveryWindow_check success
        · obtain rfl : type = "heartbeat" := by
            simp only [validTimelinessTypes] at listed
            simp_all
          exact timelinessHeartbeat_check success

end Inversion

/-! ## Times -/

def secondsPerDay : Rat := 86400

def timeOfDay (moment : Rat) : Rat := moment - secondsPerDay * (⌊moment / secondsPerDay⌋ : Int)

def minuteOfDay (hourOf minuteOf : Rat) : Int :=
  ⌊hourOf⌋ / 3600 % 24 * 60 + ⌊minuteOf⌋ / 60 % 60

def clock {Row : Type} (now : Rat) (moment : Row → String → Option Rat)
    (truth : Row → String → Ternary) : Engine Row Rat where
  column row reference := moment row reference.column
  own _ _ := none
  literal _ := 0
  whole value := value
  raw _ _ := none
  value _ _ := none
  truth := truth
  related _ _ _ _ := none
  unary before _ operand :=
    if before = "EXTRACT(EPOCH FROM (NOW() - " then now - operand else operand
  binary before _ _ first second :=
    if before = "ABS(EXTRACT(EPOCH FROM (" then |first - second| else minuteOfDay first second
  isZero value := value == 0
  regex _ _ := false
  equal first second := first == second
  less first second := decide (first < second)

/-- A time of day from the start of a window to its end, over midnight where it ends before it
starts. The bounds are minutes. -/
def WithinWindow (start stop : Nat) (time : Rat) : Prop :=
  if start ≤ stop then (start : Rat) * 60 ≤ time ∧ time ≤ stop * 60
  else (start : Rat) * 60 ≤ time ∨ time ≤ stop * 60

/-- A time of day that a window treats as it should: not one in the minute after the end, nor one
in a window over midnight. -/
def WindowKept (start stop : Nat) (time : Rat) : Prop :=
  if start ≤ stop then time ≤ stop * 60 ∨ ((stop : Rat) + 1) * 60 ≤ time
  else stop * 60 < time ∧ time < (start : Rat) * 60

theorem minuteOfDay_eq (moment : Rat) : minuteOfDay moment moment = ⌊moment⌋ / 60 % 1440 := by
  unfold minuteOfDay
  omega

private theorem le_minuteOfDay_iff (minute : Int) (moment : Rat) :
    minute ≤ minuteOfDay moment moment ↔ (minute : Rat) * 60 ≤ timeOfDay moment := by
  have day : ⌊moment / secondsPerDay⌋ = ⌊moment⌋ / 86400 := by
    have cast := Int.floor_div_natCast moment 86400
    exact_mod_cast cast
  have shifted : (minute : Rat) * 60 ≤ timeOfDay moment ↔
      ((minute * 60 + 86400 * (⌊moment⌋ / 86400) : Int) : Rat) ≤ moment := by
    unfold timeOfDay
    rw [day, le_sub_iff_add_le]
    push_cast [secondsPerDay]
    rfl
  rw [minuteOfDay_eq, shifted, ← Int.le_floor]
  omega

private theorem between_iff (start stop : Nat) (moment : Rat) :
    ((start : Int) ≤ minuteOfDay moment moment ∧ minuteOfDay moment moment ≤ stop) ↔
      (start : Rat) * 60 ≤ timeOfDay moment ∧ timeOfDay moment < ((stop : Rat) + 1) * 60 := by
  have first := le_minuteOfDay_iff start moment
  have past := le_minuteOfDay_iff (stop + 1) moment
  push_cast at first past
  rw [first, ← Int.lt_add_one_iff, ← not_le, past, not_le]

private theorem windowKept_iff (start stop : Nat) (time : Rat) :
    ((start : Rat) * 60 ≤ time ∧ time < ((stop : Rat) + 1) * 60 ↔ WithinWindow start stop time) ↔
      WindowKept start stop time := by
  unfold WithinWindow WindowKept
  split
  · rename_i ordered
    have ordered : (start : Rat) ≤ stop := by exact_mod_cast ordered
    constructor
    · intro same
      by_cases ends : time ≤ stop * 60
      · exact .inl ends
      · refine .inr (not_lt.mp fun soon => ?_)
        exact ends (same.mp ⟨by linarith, soon⟩).2
    · rintro (ends | past)
      · exact and_congr_right fun _ => iff_of_true (by linarith) ends
      · exact iff_of_false (fun within => by linarith [within.2]) fun within => by
          linarith [within.2]
  · rename_i overnight
    have overnight : (stop : Rat) + 1 ≤ start := by exact_mod_cast not_le.mp overnight
    have never : ¬((start : Rat) * 60 ≤ time ∧ time < ((stop : Rat) + 1) * 60) := fun within => by
      linarith [within.1, within.2]
    rw [iff_false_left never, not_or, not_le, not_le, and_comm]

/-! ## Partitions -/

section Partitions

variable {Row : Type} (runtime : Runtime) (nullHandling filter : Value) (now : Rat)
  (moment : Row → String → Option Rat) (truth : Row → String → Ternary)

def InFilter (row : Row) : Prop :=
  filter.truthy = true → truth row (runtime.str filter) = some true

/-- A timestamp of the row is NULL. -/
def Untimed (columns : List String) (row : Row) : Prop :=
  ∃ column ∈ columns, moment row column = none

namespace TimelinessSource

variable (source : TimelinessSource) (rows : List Row)

def counted : List Row :=
  (clock now moment truth).selected (source.check runtime nullHandling filter).conditions rows

/-- The two counts are numbers that add up to the total, rows without a timestamp are counted where
the null handling says, and rows are in time where their time of day is in the window. -/
structure Partitions : Prop where
  numbers : ∃ total timely untimely,
    (source.check runtime nullHandling filter).total.value (clock now moment truth)
        (source.counted runtime nullHandling filter now moment truth rows) = some total ∧
      (source.check runtime nullHandling filter).timely.value (clock now moment truth)
          (source.counted runtime nullHandling filter now moment truth rows) = some timely ∧
        (source.check runtime nullHandling filter).untimely.value (clock now moment truth)
            (source.counted runtime nullHandling filter now moment truth rows) = some untimely ∧
          timely + untimely = total
  failed : source.judgesRows = true → nullHandling.is "fail" = true → ∀ row ∈ rows,
    InFilter runtime filter truth row → Untimed moment source.moments row →
      row ∈ source.counted runtime nullHandling filter now moment truth rows ∧
        (source.check runtime nullHandling filter).untimely.counts (clock now moment truth) row = true
  passed : source.judgesRows = true → nullHandling.is "pass" = true → ∀ row ∈ rows,
    InFilter runtime filter truth row → Untimed moment source.moments row →
      row ∈ source.counted runtime nullHandling filter now moment truth rows ∧
        (source.check runtime nullHandling filter).timely.counts (clock now moment truth) row = true
  skipped : source.judgesRows = true → nullHandling.is "skip" = true → ∀ row ∈ rows,
    InFilter runtime filter truth row → Untimed moment source.moments row →
      row ∉ source.counted runtime nullHandling filter now moment truth rows
  delivered : ∀ column start stop, source = .deliveryWindow column start stop → ∀ row ∈ rows,
    InFilter runtime filter truth row → ∀ time ∈ moment row column,
      ((source.check runtime nullHandling filter).timely.counts (clock now moment truth) row = true ↔
        WithinWindow start stop (timeOfDay time))

/-- What has to be there for that: a timestamp, unless there are no rows; a row, and no NULL that is
to fail; a row, and timestamps that the window treats as it should. -/
def Conserves : Prop :=
  match source with
  | .freshness column _ | .heartbeat column _ =>
      (∃ row ∈ rows, InFilter runtime filter truth row) →
        ∃ row ∈ rows, InFilter runtime filter truth row ∧ (moment row column).isSome = true
  | .recordAge _ _ | .delay _ _ _ =>
      (∃ row ∈ rows, InFilter runtime filter truth row ∧
        (nullHandling.is "skip" = true → ¬Untimed moment source.moments row)) ∧
      (nullHandling.is "skip" = false → nullHandling.is "pass" = false → ∀ row ∈ rows,
        InFilter runtime filter truth row → ¬Untimed moment source.moments row)
  | .deliveryWindow column start stop =>
      (∃ row ∈ rows, InFilter runtime filter truth row) ∧
        ∀ row ∈ rows, InFilter runtime filter truth row →
          ∃ time, moment row column = some time ∧ WindowKept start stop (timeOfDay time)

end TimelinessSource

variable {runtime nullHandling filter now moment truth}

private theorem admits_bareCondition {row : Row} :
    admits (clock now moment truth) row (bareCondition runtime filter) = true ↔
      InFilter runtime filter truth row := by
  unfold bareCondition InFilter
  split
  · rename_i filtered
    simp [admits_iff, Predicate.holds, Predicate.eval, Atomic.eval, clock, filtered]
  · rename_i unfiltered
    simp [admits_iff, unfiltered]

private theorem admits_filterCondition {row : Row} :
    admits (clock now moment truth) row (filterCondition runtime filter) = true ↔
      InFilter runtime filter truth row := by
  unfold filterCondition InFilter
  split
  · rename_i filtered
    simp [admits_iff, Predicate.holds, Predicate.eval, Atomic.eval, clock, filtered]
  · rename_i unfiltered
    simp [admits_iff, unfiltered]

theorem isNull_cell {row : Row} {column : String} :
    (Expr.cell column).isNull (clock now moment truth) row = (moment row column).isNone := rfl

theorem mem_selected {row : Row} {rows : List Row} {conditions : List Predicate} :
    row ∈ (clock now moment truth).selected conditions rows ↔
      row ∈ rows ∧ admits (clock now moment truth) row conditions = true :=
  List.mem_filter

theorem holds_missingOr {columns : List String} {condition : Predicate} {row : Row} :
    (missingOr columns condition).holds (clock now moment truth) row = true ↔
      Untimed moment columns row ∨ condition.holds (clock now moment truth) row = true := by
  induction columns with
  | nil => simp [missingOr, Untimed]
  | cons column rest ih =>
    have unfolded : missingOr (column :: rest) condition =
        .or (.atom (.isNull (.cell column))) (missingOr rest condition) := rfl
    rw [unfolded, Predicate.holds_or, Bool.or_eq_true, ih, Predicate.holds_isNull, isNull_cell,
      Option.isNone_iff_eq_none]
    simp only [Untimed, List.mem_cons, exists_eq_or_imp, or_assoc]

theorem holds_presentAnd {columns : List String} {condition : Predicate} {row : Row} :
    (presentAnd columns condition).holds (clock now moment truth) row = true ↔
      ¬Untimed moment columns row ∧ condition.holds (clock now moment truth) row = true := by
  induction columns with
  | nil => simp [presentAnd, Untimed]
  | cons column rest ih =>
    have unfolded : presentAnd (column :: rest) condition =
        .and (.atom (.isNotNull (.cell column))) (presentAnd rest condition) := rfl
    rw [unfolded, Predicate.holds_and, Bool.and_eq_true, ih, Predicate.holds_isNotNull, isNull_cell,
      Bool.not_eq_true', Option.isNone_eq_false_iff, Option.isSome_iff_ne_none]
    simp only [Untimed, List.mem_cons, exists_eq_or_imp, not_or, and_assoc, ne_eq]

/-! The figures of a table that has a latest timestamp, and of one that has none. -/

private theorem latestAge_eq_none {column : String} {rows : List Row} :
    (latestAge column).eval (clock now moment truth) rows = none ↔
      ∀ row ∈ rows, moment row column = none := by
  unfold latestAge
  rw [Figure.isNone_unary, Figure.greatest_isNone]
  simp only [isNull_cell, Option.isNone_iff_eq_none]

theorem ageWithin_of_latest {column : String} {rows : List Row} (limit : Int)
    (latest : (latestAge column).eval (clock now moment truth) rows ≠ none) :
    ∃ inTime, (ageWithin .lessEqual column limit).eval (clock now moment truth) rows = some inTime ∧
      (ageWithin .greater column limit).eval (clock now moment truth) rows = some !inTime := by
  obtain ⟨age, found⟩ := Option.ne_none_iff_exists'.mp latest
  refine ⟨!(clock now moment truth).less ((clock now moment truth).whole limit) age, ?_, ?_⟩
  · unfold ageWithin
    rw [Verdict.eval, found]
    rfl
  · unfold ageWithin
    rw [Verdict.eval, found, Bool.not_not]
    rfl

variable {rows : List Row}

theorem counted_bare {source : TimelinessSource}
    (bare : (source.check runtime nullHandling filter).conditions = bareCondition runtime filter)
    {row : Row} : row ∈ source.counted runtime nullHandling filter now moment truth rows ↔
      row ∈ rows ∧ InFilter runtime filter truth row := by
  unfold TimelinessSource.counted
  rw [mem_selected, bare, admits_bareCondition]

theorem conserves_latest_iff {source : TimelinessSource} {column : String}
    (bare : (source.check runtime nullHandling filter).conditions = bareCondition runtime filter) :
    ((∃ row ∈ rows, InFilter runtime filter truth row) →
      ∃ row ∈ rows, InFilter runtime filter truth row ∧ (moment row column).isSome = true) ↔
    (source.counted runtime nullHandling filter now moment truth rows = [] ∨
      (latestAge column).eval (clock now moment truth)
        (source.counted runtime nullHandling filter now moment truth rows) ≠ none) := by
  rw [Ne, latestAge_eq_none, List.eq_nil_iff_forall_not_mem]
  simp only [counted_bare bare, not_forall, Option.isSome_iff_ne_none, ne_eq, exists_prop, not_and]
  constructor
  · intro latest
    by_cases some_row : ∃ row, row ∈ rows ∧ InFilter runtime filter truth row
    · obtain ⟨row, member, filtered⟩ := some_row
      obtain ⟨timed, inside, found⟩ := latest ⟨row, member, filtered⟩
      exact .inr ⟨timed, ⟨inside, found.1⟩, found.2⟩
    · exact .inl fun row member filtered => some_row ⟨row, member, filtered⟩
  · rintro (empty | ⟨timed, ⟨inside, filtered⟩, found⟩) ⟨row, member, kept⟩
    · exact (empty row member kept).elim
    · exact ⟨timed, inside, filtered, found⟩

theorem partitions_of_figures {source : TimelinessSource} (whole : source.judgesRows = false)
    (adds : ∃ total timely untimely,
      (source.check runtime nullHandling filter).total.value (clock now moment truth)
          (source.counted runtime nullHandling filter now moment truth rows) = some total ∧
        (source.check runtime nullHandling filter).timely.value (clock now moment truth)
            (source.counted runtime nullHandling filter now moment truth rows) = some timely ∧
          (source.check runtime nullHandling filter).untimely.value (clock now moment truth)
              (source.counted runtime nullHandling filter now moment truth rows) = some untimely ∧
            timely + untimely = total) :
    source.Partitions runtime nullHandling filter now moment truth rows := by
  refine ⟨adds, fun judges => ?_, fun judges => ?_, fun judges => ?_, ?_⟩
  · exact (Bool.false_ne_true (whole.symm.trans judges)).elim
  · exact (Bool.false_ne_true (whole.symm.trans judges)).elim
  · exact (Bool.false_ne_true (whole.symm.trans judges)).elim
  · rintro column start stop rfl
    cases whole

private theorem freshness_partitions_iff (column : String) (limit : Int) :
    (TimelinessSource.freshness column limit).Partitions runtime nullHandling filter now moment truth
        rows ↔
      (TimelinessSource.freshness column limit).Conserves runtime nullHandling filter moment truth
        rows := by
  refine Iff.trans ?_ (@conserves_latest_iff _ runtime nullHandling filter now moment truth rows
    (.freshness column limit) _ rfl).symm
  constructor
  · rintro ⟨⟨total, timely, untimely, isTotal, isTimely, isUntimely, adds⟩, -, -, -, -⟩
    refine or_iff_not_imp_right.mpr fun unknown => ?_
    obtain missing := not_ne_iff.mp unknown
    simp only [TimelinessSource.check, Count.value, ageWithin, Verdict.compare_of_none missing,
      Size.value, Option.some.injEq, if_neg (Option.some_ne_none true).symm] at isTotal isTimely isUntimely
    exact List.eq_nil_of_length_eq_zero (by omega)
  · intro known
    refine partitions_of_figures rfl ⟨_, _, _, rfl, rfl, rfl, ?_⟩
    rcases known with empty | latest
    · rw [empty]
      simp [Size.value]
    · obtain ⟨inTime, within, past⟩ := ageWithin_of_latest limit latest
      simp only [within, past, Size.value]
      cases inTime <;> simp

private theorem count_compare (rows : List Row) :
    (Verdict.compare .greater (.size .rows) (.whole 0)).eval (clock now moment truth) rows =
        some (!rows.isEmpty) ∧
      (Verdict.compare .equal (.size .rows) (.whole 0)).eval (clock now moment truth) rows =
        some rows.isEmpty := by
  cases rows with
  | nil => exact ⟨rfl, rfl⟩
  | cons row rows =>
    have positive : (0 : Rat) < ((row :: rows).length : Int) := by
      exact_mod_cast Nat.succ_pos rows.length
    exact ⟨congrArg some (decide_eq_true positive), congrArg some (beq_false_of_ne positive.ne')⟩

private theorem heartbeat_counts (column : String) (limit : Int) (rows : List Row) :
    (Count.choice (.and (.compare .greater (.size .rows) (.whole 0))
        (ageWithin .lessEqual column limit)) (.constant 1)).value (clock now moment truth) rows =
      some (if Ternary.and (some !rows.isEmpty)
        ((ageWithin .lessEqual column limit).eval (clock now moment truth) rows) = some true
          then 1 else 0) ∧
    (Count.choice (.or (.compare .equal (.size .rows) (.whole 0))
        (ageWithin .greater column limit)) (.constant 1)).value (clock now moment truth) rows =
      some (if Ternary.or (some rows.isEmpty)
        ((ageWithin .greater column limit).eval (clock now moment truth) rows) = some true
          then 1 else 0) := by
  obtain ⟨someRows, noRows⟩ := count_compare rows
  constructor
  · rw [← someRows]
    rfl
  · rw [← noRows]
    rfl

private theorem heartbeat_partitions_iff (column : String) (limit : Int) :
    (TimelinessSource.heartbeat column limit).Partitions runtime nullHandling filter now moment truth
        rows ↔
      (TimelinessSource.heartbeat column limit).Conserves runtime nullHandling filter moment truth
        rows := by
  refine Iff.trans ?_ (@conserves_latest_iff _ runtime nullHandling filter now moment truth rows
    (.heartbeat column limit) _ rfl).symm
  obtain ⟨timelyCount, untimelyCount⟩ := heartbeat_counts column limit (TimelinessSource.counted runtime nullHandling filter now moment
      truth (.heartbeat column limit) rows)
  constructor
  · rintro ⟨⟨total, timely, untimely, isTotal, isTimely, isUntimely, adds⟩, -, -, -, -⟩
    refine or_iff_not_imp_right.mpr fun unknown => ?_
    have missing := not_ne_iff.mp unknown
    obtain rfl := Option.some.inj isTotal
    have isTimely := timelyCount.symm.trans isTimely
    have isUntimely := untimelyCount.symm.trans isUntimely
    rw [ageWithin, Verdict.compare_of_none missing] at isTimely isUntimely
    by_contra filled
    have filled := List.isEmpty_eq_false_iff.mpr filled
    rw [filled] at isTimely isUntimely
    obtain rfl := Option.some.inj isTimely
    obtain rfl := Option.some.inj isUntimely
    exact absurd (show 0 + 0 = 1 from adds) (by decide)
  · intro known
    refine partitions_of_figures rfl ⟨_, _, _, rfl, timelyCount, untimelyCount, ?_⟩
    rcases known with empty | latest
    · rw [empty]
      rfl
    · obtain ⟨inTime, within, past⟩ := ageWithin_of_latest limit latest
      have filled : (TimelinessSource.counted runtime nullHandling filter now moment truth
          (.heartbeat column limit) rows).isEmpty = false := by
        refine List.isEmpty_eq_false_iff.mpr fun empty => latest ?_
        rw [empty]
        rfl
      rw [within, past, filled]
      cases inTime <;> rfl

/-! The rows that are judged one by one. -/

section PerRow

variable {columns : List String} {measured : Expr} {limit : Int}

private theorem mem_perRow_counted {row : Row} :
    row ∈ (clock now moment truth).selected
        (perRowCheck runtime nullHandling filter columns measured limit).conditions rows ↔
      row ∈ rows ∧ InFilter runtime filter truth row ∧
        (nullHandling.is "skip" = true → ¬Untimed moment columns row) := by
  have present : admits (clock now moment truth) row
      (if nullHandling.is "skip" then presence columns else []) = true ↔
        (nullHandling.is "skip" = true → ¬Untimed moment columns row) := by
    cases nullHandling.is "skip" with
    | true =>
      simp only [if_true, admits_presence, isNull_cell, Option.isNone_eq_false_iff,
        Option.isSome_iff_ne_none, Untimed, not_exists, not_and, ne_eq, true_imp_iff]
    | false => simp [admits_iff]
  rw [mem_selected, perRowCheck, admits_append, Bool.and_eq_true, admits_filterCondition, present,
    and_comm (b := InFilter runtime filter truth row)]

private theorem holds_late (row : Row) :
    (Predicate.atom (.compare .greater measured (.whole limit))).holds (clock now moment truth) row =
      (!measured.isNull (clock now moment truth) row &&
        !(Predicate.atom (.compare .lessEqual measured (.whole limit))).holds
          (clock now moment truth) row) := by
  have known : (Comparison.lessEqual.eval (clock now moment truth) row measured
      (.whole limit)).isSome = !measured.isNull (clock now moment truth) row :=
    Comparison.isSome_of_present rfl
  have negated : (Predicate.atom (.compare .greater measured (.whole limit))).eval
      (clock now moment truth) row =
    ((Predicate.atom (.compare .lessEqual measured (.whole limit))).eval
      (clock now moment truth) row).not := Comparison.eval_negation .lessEqual _ _
  rw [← known]
  exact Predicate.holds_of_negation negated

theorem not_inTime_of_isNull {row : Row} (missing : measured.isNull (clock now moment truth) row = true) :
    (Predicate.atom (.compare .lessEqual measured (.whole limit))).holds (clock now moment truth) row =
      false := by
  refine Predicate.holds_of_unknown ?_
  have known : (Comparison.lessEqual.eval (clock now moment truth) row measured
      (.whole limit)).isSome = !measured.isNull (clock now moment truth) row :=
    Comparison.isSome_of_present rfl
  exact known.trans (congrArg (!·) missing)

variable (missing : ∀ row, measured.isNull (clock now moment truth) row = true ↔
  Untimed moment columns row)

include missing

private theorem perRow_sides (row : Row) :
    ¬((perRowCheck runtime nullHandling filter columns measured limit).timely.counts
          (clock now moment truth) row = true ∧
        (perRowCheck runtime nullHandling filter columns measured limit).untimely.counts
          (clock now moment truth) row = true) ∧
      (((perRowCheck runtime nullHandling filter columns measured limit).timely.counts
          (clock now moment truth) row = true ∨
        (perRowCheck runtime nullHandling filter columns measured limit).untimely.counts
          (clock now moment truth) row = true) ↔
        (nullHandling.is "pass" = false → ¬Untimed moment columns row)) ∧
      (nullHandling.is "pass" = true → Untimed moment columns row →
        (perRowCheck runtime nullHandling filter columns measured limit).timely.counts
          (clock now moment truth) row = true) := by
  have late := @holds_late _ now moment truth measured limit row
  have unknown := @not_inTime_of_isNull _ now moment truth measured limit row
  have isMissing := missing row
  have timely : (perRowCheck runtime nullHandling filter columns measured limit).timely.counts
      (clock now moment truth) row =
    (if nullHandling.is "pass" then missingOr columns
        (.atom (.compare .lessEqual measured (.whole limit)))
      else .atom (.compare .lessEqual measured (.whole limit))).holds (clock now moment truth) row := rfl
  have untimely : (perRowCheck runtime nullHandling filter columns measured limit).untimely.counts
      (clock now moment truth) row =
    (if nullHandling.is "pass" then presentAnd columns
        (.atom (.compare .greater measured (.whole limit)))
      else .atom (.compare .greater measured (.whole limit))).holds (clock now moment truth) row := rfl
  rw [timely, untimely]
  cases nullHandling.is "pass" with
  | true =>
    simp only [if_true, holds_missingOr, holds_presentAnd, late]
    cases null : measured.isNull (clock now moment truth) row <;>
      cases inTime : (Predicate.atom (.compare .lessEqual measured (.whole limit))).holds
        (clock now moment truth) row <;> simp_all
  | false =>
    simp only [Bool.false_eq_true, if_false, late]
    cases null : measured.isNull (clock now moment truth) row <;>
      cases inTime : (Predicate.atom (.compare .lessEqual measured (.whole limit))).holds
        (clock now moment truth) row <;> simp_all

theorem perRow_partitions_iff {source : TimelinessSource}
    (isCheck : source.check runtime nullHandling filter =
      perRowCheck runtime nullHandling filter columns measured limit)
    (isMoments : source.moments = columns)
    (noWindow : ∀ column start stop, source ≠ .deliveryWindow column start stop) :
    source.Partitions runtime nullHandling filter now moment truth rows ↔
      (∃ row ∈ rows, InFilter runtime filter truth row ∧
        (nullHandling.is "skip" = true → ¬Untimed moment columns row)) ∧
      (nullHandling.is "skip" = false → nullHandling.is "pass" = false → ∀ row ∈ rows,
        InFilter runtime filter truth row → ¬Untimed moment columns row) := by
  have inCounted (row : Row) :
      row ∈ source.counted runtime nullHandling filter now moment truth rows ↔
        row ∈ rows ∧ InFilter runtime filter truth row ∧
          (nullHandling.is "skip" = true → ¬Untimed moment columns row) := by
    unfold TimelinessSource.counted
    rw [isCheck]
    exact mem_perRow_counted
  have sides (row : Row) := @perRow_sides _ runtime nullHandling filter now moment truth _ measured
    limit missing row
  have sums := @Count.sums_add_up_iff _ _ _ _ _
    (source.counted runtime nullHandling filter now moment truth rows)
    fun row _ => (sides row).1
  constructor
  · rintro ⟨⟨total, timely, untimely, isTotal, isTimely, isUntimely, adds⟩, -, -, -, -⟩
    rw [isCheck] at isTotal isTimely isUntimely
    obtain rfl := Option.some.inj isTotal
    obtain ⟨filled, each⟩ := sums.mp ⟨timely, untimely, isTimely, isUntimely, adds⟩
    obtain ⟨row, member⟩ := List.exists_mem_of_ne_nil _ filled
    refine ⟨⟨row, (inCounted row).mp member⟩, fun kept strict row member filtered => ?_⟩
    have inside := (inCounted row).mpr
      ⟨member, filtered, fun skips => Bool.noConfusion (skips.symm.trans kept)⟩
    exact (sides row).2.1.mp (each row inside) strict
  · rintro ⟨⟨row, member, filtered, present⟩, strict⟩
    have each : ∀ row ∈ source.counted runtime nullHandling filter now moment truth rows,
        nullHandling.is "pass" = false → ¬Untimed moment columns row := by
      intro row inside noPass
      obtain ⟨member, filtered, present⟩ := (inCounted row).mp inside
      cases skips : nullHandling.is "skip" with
      | true => exact present skips
      | false => exact strict skips noPass row member filtered
    obtain ⟨timely, untimely, isTimely, isUntimely, adds⟩ := sums.mpr
      ⟨List.ne_nil_of_mem ((inCounted row).mpr ⟨member, filtered, present⟩),
        fun row inside => (sides row).2.1.mpr (each row inside)⟩
    refine ⟨⟨_, timely, untimely, ?_, ?_, ?_, adds⟩, fun _ mode row member filtered untimed => ?_,
      fun _ mode row member filtered untimed => ?_, fun _ mode row member filtered untimed inside => ?_,
      fun column start stop isWindow => (noWindow _ _ _ isWindow).elim⟩
    · rw [isCheck]
      rfl
    · rw [isCheck]
      exact isTimely
    · rw [isCheck]
      exact isUntimely
    · rw [isMoments] at untimed
      rw [Value.is_iff.mp mode] at strict
      exact (strict rfl rfl row member filtered untimed).elim
    · rw [isMoments] at untimed
      refine ⟨(inCounted row).mpr ⟨member, filtered, fun skips => ?_⟩, ?_⟩
      · rw [Value.is_iff.mp mode] at skips
        exact absurd skips (by decide)
      · rw [isCheck]
        exact (sides row).2.2 mode untimed
    · rw [isMoments] at untimed
      exact ((inCounted row).mp inside).2.2 mode untimed

end PerRow

private theorem untimed_pair {first second : String} {row : Row} :
    Untimed moment [first, second] row ↔ moment row first = none ∨ moment row second = none := by
  simp only [Untimed, List.mem_cons, List.not_mem_nil, or_false, exists_eq_or_imp, exists_eq_left]

private theorem recordAge_partitions_iff (column : String) (limit : Int) :
    (TimelinessSource.recordAge column limit).Partitions runtime nullHandling filter now moment truth
        rows ↔
      (TimelinessSource.recordAge column limit).Conserves runtime nullHandling filter moment truth
        rows := by
  refine perRow_partitions_iff (fun row => ?_) rfl rfl nofun
  rw [Expr.isNull_unary, isNull_cell, Option.isNone_iff_eq_none]
  simp only [Untimed, TimelinessSource.moments, List.mem_singleton, exists_eq_left]

private theorem delay_partitions_iff (column other : String) (limit : Int) :
    (TimelinessSource.delay column other limit).Partitions runtime nullHandling filter now moment
        truth rows ↔
      (TimelinessSource.delay column other limit).Conserves runtime nullHandling filter moment truth
        rows := by
  refine perRow_partitions_iff (fun row => ?_) rfl rfl nofun
  rw [Expr.isNull_binary, isNull_cell, isNull_cell, Bool.or_eq_true, Option.isNone_iff_eq_none,
    Option.isNone_iff_eq_none, or_comm]
  exact untimed_pair.symm

/-! The rows of a delivery window. -/

section Window

variable {column : String} {start stop : Nat}

private theorem window_counts {row : Row} {time : Rat} (found : moment row column = some time) :
    ((Case.between (minutes column) start stop).holds (clock now moment truth) row = true ↔
      (start : Rat) * 60 ≤ timeOfDay time ∧ timeOfDay time < ((stop : Rat) + 1) * 60) ∧
    (Case.notBetween (minutes column) start stop).holds (clock now moment truth) row =
      !(Case.between (minutes column) start stop).holds (clock now moment truth) row := by
  have value : (minutes column).eval (clock now moment truth) row =
      some ((minuteOfDay time time : Int) : Rat) := by
    change (moment row column).bind (fun first => (moment row column).map _) = _
    rw [found]
    rfl
  have between := @betweenEval_of_some _ _ _ _ _ start stop _ value
  rw [← between_iff]
  constructor
  · rw [Case.holds_between, between, beq_iff_eq, Option.some.injEq, Bool.and_eq_true, Bool.not_eq_true',
      Bool.not_eq_true']
    change decide ((minuteOfDay time time : Rat) < (start : Int)) = false ∧
      decide (((stop : Int) : Rat) < minuteOfDay time time) = false ↔ _
    rw [decide_eq_false_iff_not, decide_eq_false_iff_not, not_lt, not_lt, Int.cast_le, Int.cast_le]
  · rw [Case.holds_notBetween, Case.holds_between, between]
    generalize (!(clock now moment truth).less _ _ && !(clock now moment truth).less _ _) = inside
    cases inside <;> rfl

private theorem window_counts_none {row : Row} (missing : moment row column = none) :
    (Case.between (minutes column) start stop).holds (clock now moment truth) row = false ∧
      (Case.notBetween (minutes column) start stop).holds (clock now moment truth) row = false := by
  have value : (minutes column).eval (clock now moment truth) row = none := by
    change (moment row column).bind (fun first => (moment row column).map _) = _
    rw [missing]
    rfl
  have between := @betweenEval_of_none _ _ _ _ _ start stop value
  rw [Case.holds_notBetween, Case.holds_between, between]
  exact ⟨rfl, rfl⟩

theorem deliveryWindow_partitions_iff :
    (TimelinessSource.deliveryWindow column start stop).Partitions runtime nullHandling filter now
        moment truth rows ↔
      (TimelinessSource.deliveryWindow column start stop).Conserves runtime nullHandling filter
        moment truth rows := by
  have inCounted (row : Row) : row ∈ TimelinessSource.counted runtime nullHandling filter now moment
      truth (.deliveryWindow column start stop) rows ↔
        row ∈ rows ∧ InFilter runtime filter truth row := counted_bare rfl
  have sides (row : Row) : ((Case.between (minutes column) start stop).holds
        (clock now moment truth) row = true ∨
      (Case.notBetween (minutes column) start stop).holds (clock now moment truth) row = true ↔
        moment row column ≠ none) ∧
      ¬((Case.between (minutes column) start stop).holds (clock now moment truth) row = true ∧
        (Case.notBetween (minutes column) start stop).holds (clock now moment truth) row = true) := by
    cases found : moment row column with
    | none =>
      obtain ⟨inside, outside⟩ := @window_counts_none _ now moment truth column start stop row found
      simp [inside, outside]
    | some time =>
      rw [(window_counts found).2]
      cases (Case.between (minutes column) start stop).holds (clock now moment truth) row <;> simp
  have sums := @Count.sums_add_up_iff _ _ _ _ _
    (TimelinessSource.counted runtime nullHandling filter now moment truth
      (.deliveryWindow column start stop) rows)
    fun row _ => (sides row).2
  constructor
  · rintro ⟨⟨total, timely, untimely, isTotal, isTimely, isUntimely, adds⟩, -, -, -, delivered⟩
    obtain rfl := Option.some.inj isTotal
    obtain ⟨filled, each⟩ := sums.mp ⟨timely, untimely, isTimely, isUntimely, adds⟩
    obtain ⟨row, member⟩ := List.exists_mem_of_ne_nil _ filled
    refine ⟨⟨row, (inCounted row).mp member⟩, fun row member filtered => ?_⟩
    obtain ⟨time, found⟩ := Option.ne_none_iff_exists'.mp
      ((sides row).1.mp (each row ((inCounted row).mpr ⟨member, filtered⟩)))
    refine ⟨time, found, (windowKept_iff start stop _).mp ?_⟩
    exact (window_counts found).1.symm.trans
      (delivered column start stop rfl row member filtered time found)
  · rintro ⟨⟨row, member, filtered⟩, kept⟩
    have timed (row : Row) (member : row ∈ rows) (filtered : InFilter runtime filter truth row) :
        ¬Untimed moment [column] row := by
      obtain ⟨time, found, -⟩ := kept row member filtered
      simp [Untimed, found]
    have each : ∀ row ∈ TimelinessSource.counted runtime nullHandling filter now moment truth
        (.deliveryWindow column start stop) rows, moment row column ≠ none := by
      intro row inside
      obtain ⟨member, filtered⟩ := (inCounted row).mp inside
      obtain ⟨time, found, -⟩ := kept row member filtered
      rw [found]
      exact Option.some_ne_none time
    obtain ⟨timely, untimely, isTimely, isUntimely, adds⟩ := sums.mpr
      ⟨List.ne_nil_of_mem ((inCounted row).mpr ⟨member, filtered⟩),
        fun row inside => (sides row).1.mpr (each row inside)⟩
    refine ⟨⟨_, timely, untimely, rfl, isTimely, isUntimely, adds⟩,
      fun _ _ row member filtered untimed => (timed row member filtered untimed).elim,
      fun _ _ row member filtered untimed => (timed row member filtered untimed).elim,
      fun _ _ row member filtered untimed => (timed row member filtered untimed).elim, ?_⟩
    intro column start stop same row member filtered time found
    cases same
    obtain ⟨other, isOther, windowKept⟩ := kept row member filtered
    obtain rfl := Option.some.inj (isOther.symm.trans found)
    exact (window_counts found).1.trans ((windowKept_iff start stop _).mpr windowKept)

end Window

private theorem TimelinessSource.partitions_iff (source : TimelinessSource) (rows : List Row) :
    source.Partitions runtime nullHandling filter now moment truth rows ↔
      source.Conserves runtime nullHandling filter moment truth rows := by
  cases source with
  | freshness column limit => exact freshness_partitions_iff column limit
  | heartbeat column limit => exact heartbeat_partitions_iff column limit
  | recordAge column limit => exact recordAge_partitions_iff column limit
  | delay column other limit => exact delay_partitions_iff column other limit
  | deliveryWindow column start stop => exact deliveryWindow_partitions_iff

/-! The row of the rendered query. -/

def ofCount (count : Option Nat) : Value := count.elim .none fun number => .int number

/-- A database that takes the texts of the counts for the counts they were written from. -/
structure TimelinessSource.ReadBy (source : TimelinessSource) (runtime : Runtime)
    (nullHandling filter : Value) (engine : Engine Row Rat) (rows : List Row)
    (valuation : Valuation Phrase) : Prop where
  total : (source.check runtime nullHandling filter).total.value engine rows =
    some (valuation.rows (source.check runtime nullHandling filter).total.phrase)
  timely : valuation.scalar (source.check runtime nullHandling filter).timely.phrase =
    ofCount ((source.check runtime nullHandling filter).timely.value engine rows)
  untimely : valuation.scalar (source.check runtime nullHandling filter).untimely.phrase =
    ofCount ((source.check runtime nullHandling filter).untimely.value engine rows)

private theorem TimelinessSource.row_query (source : TimelinessSource) (table : Phrase)
    (valuation : Valuation Phrase) :
    let check := source.check runtime nullHandling filter
    let row := (check.query runtime table).row valuation
    row.get "total_rows" = .int (valuation.rows check.total.phrase) ∧
      row.get "timely_rows" = valuation.scalar check.timely.phrase ∧
        row.get "untimely_rows" = valuation.scalar check.untimely.phrase := by
  cases source <;> exact ⟨rfl, rfl, rfl⟩

/-- Where the counts divide the rows, so do those of the row that the query returns. -/
theorem TimelinessSource.row_adds_up {source : TimelinessSource} {valuation : Valuation Phrase}
    (table : Phrase)
    (read : source.ReadBy runtime nullHandling filter (clock now moment truth)
      (source.counted runtime nullHandling filter now moment truth rows) valuation)
    (divides : source.Partitions runtime nullHandling filter now moment truth rows) :
    ∃ total timely untimely : Nat, timely + untimely = total ∧
      let row := ((source.check runtime nullHandling filter).query runtime table).row valuation
      row.get "total_rows" = .int total ∧ row.get "timely_rows" = .int timely ∧
        row.get "untimely_rows" = .int untimely := by
  obtain ⟨total, timely, untimely, isTotal, isTimely, isUntimely, adds⟩ := divides.numbers
  obtain ⟨totalRead, timelyRead, untimelyRead⟩ :=
    @row_query runtime nullHandling filter source table valuation
  refine ⟨total, timely, untimely, adds, ?_, ?_, ?_⟩
  · rw [totalRead, Option.some.inj (read.total.symm.trans isTotal)]
  · rw [timelyRead, read.timely, isTimely]
    rfl
  · rw [untimelyRead, read.untimely, isUntimely]
    rfl

end Partitions

/-- The counts of a compiled timeliness rule divide the rows exactly if a freshness or heartbeat rule
finds a timestamp where it finds rows, the other rules find rows, no NULL is to fail, and a delivery
window treats the times of its rows as it should. -/
theorem compileTimelinessRule_partitions_iff {runtime : Runtime} {table : Phrase} {column : String}
    {parameters : Dict} {compiled : Compiled}
    (success : compileTimelinessRule runtime table column parameters = .ok (.compiled compiled)) :
    ∃ type source, (parameters.get "timeliness_type").or (.str (inferTimelinessType parameters)) =
        .str type ∧ TimelinessMode runtime column parameters type source ∧
      (source.check runtime (parameters.getD "null_handling" (.str "fail"))
        (parameters.get "filter_expression")).Renders runtime table compiled ∧
      ∀ (Row : Type) (now : Rat) (moment : Row → String → Option Rat)
        (truth : Row → String → Ternary) (rows : List Row),
        source.Partitions runtime (parameters.getD "null_handling" (.str "fail"))
            (parameters.get "filter_expression") now moment truth rows ↔
          source.Conserves runtime (parameters.getD "null_handling" (.str "fail"))
            (parameters.get "filter_expression") moment truth rows := by
  obtain ⟨type, chosen, -, source, mode, renders⟩ := compileTimelinessRule_check success
  exact ⟨type, source, chosen, mode, renders, fun _ _ _ _ rows => source.partitions_iff rows⟩

/-! ## Deliveries -/

private def timestamps : Option Rat → String → Option Rat := fun row _ => row

private def everyRow : Option Rat → String → Ternary := fun _ _ => some true

private def hourlyParameters : Dict :=
  [("timeliness_type", .str "record_age"), ("max_age", .int 3600)]

theorem hourly_partitions :
    ∃ compiled source,
      compileTimelinessRule Runtime.ascii (name "orders") "created_at" hourlyParameters =
          .ok (.compiled compiled) ∧
        TimelinessMode Runtime.ascii "created_at" hourlyParameters "record_age" source ∧
          source.Partitions Runtime.ascii (.str "fail") .none 10000 timestamps everyRow
            [some 100, some 9000] := by
  have compiles : ∃ compiled, compileTimelinessRule Runtime.ascii (name "orders") "created_at"
      hourlyParameters = .ok (.compiled compiled) := ⟨_, rfl⟩
  obtain ⟨compiled, success⟩ := compiles
  obtain ⟨type, source, chosen, mode, -, partitions⟩ := compileTimelinessRule_partitions_iff success
  have isType : type = "record_age" := (Value.str.inj chosen).symm
  refine ⟨compiled, source, success, isType ▸ mode, (partitions _ _ _ _ _).mpr ?_⟩
  cases mode with
  | freshness limited => exact absurd isType (by decide)
  | heartbeat limited => exact absurd isType (by decide)
  | deliveryWindow starts stops => exact absurd isType (by decide)
  | recordAge limited =>
    refine ⟨⟨some 100, List.mem_cons_self, nofun, nofun⟩, fun _ _ row member _ => ?_⟩
    rcases List.mem_pair.mp member with rfl | rfl <;> rintro ⟨column, -, missing⟩ <;> cases missing
  | delay delays limited => exact absurd (isType ▸ delays) (by decide)

private def nightParameters : Dict :=
  [("timeliness_type", .str "delivery_window"), ("delivery_window_start", .str "22:00"),
    ("delivery_window_end", .str "06:00")]

/-- A delivery at 23:00 is counted as untimely. -/
theorem night_delivery_untimely :
    ∃ compiled source,
      compileTimelinessRule Runtime.ascii (name "orders") "created_at" nightParameters =
          .ok (.compiled compiled) ∧
        TimelinessMode Runtime.ascii "created_at" nightParameters "delivery_window" source ∧
          (source.check Runtime.ascii (nightParameters.getD "null_handling" (.str "fail"))
            (nightParameters.get "filter_expression")).Renders Runtime.ascii (name "orders") compiled ∧
          ¬source.Partitions Runtime.ascii (nightParameters.getD "null_handling" (.str "fail"))
            (nightParameters.get "filter_expression") 90000 timestamps everyRow [some 82800] := by
  have compiles : ∃ compiled, compileTimelinessRule Runtime.ascii (name "orders") "created_at"
      nightParameters = .ok (.compiled compiled) := ⟨_, rfl⟩
  obtain ⟨compiled, success⟩ := compiles
  obtain ⟨type, chosen, -, source, mode, renders⟩ := compileTimelinessRule_check success
  have isType : type = "delivery_window" := (Value.str.inj chosen).symm
  refine ⟨compiled, source, success, isType ▸ mode, renders, fun partitions => ?_⟩
  cases mode with
  | freshness limited => exact absurd isType (by decide)
  | heartbeat limited => exact absurd isType (by decide)
  | recordAge limited => exact absurd isType (by decide)
  | delay delays limited => exact absurd (isType ▸ delays) (by decide)
  | @deliveryWindow start stop starts stops =>
    obtain rfl : 1320 = start := Option.some.inj starts
    obtain rfl : 360 = stop := Option.some.inj stops
    obtain ⟨-, kept⟩ := deliveryWindow_partitions_iff.mp partitions
    obtain ⟨time, found, inWindow⟩ := kept (some 82800) List.mem_cons_self nofun
    obtain rfl := Option.some.inj found
    have midnight : ⌊(82800 : Rat) / 86400⌋ = 0 := by norm_num
    have eleven : timeOfDay 82800 = 82800 := by
      rw [timeOfDay, secondsPerDay, midnight, Int.cast_zero, mul_zero, sub_zero]
    rw [WindowKept, if_neg (by decide), eleven] at inWindow
    norm_num at inWindow

end CogniDQ.Rules
