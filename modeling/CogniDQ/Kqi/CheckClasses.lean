import CogniDQ.Kqi.CheckEffectivenessService

/-!
# The classes of checks

The documented classes of checks against those of the service. The service reads a threshold of zero
as none, compares checks by one text for type and column, also within a flow, and judges a check by
its newest thirty runs only.
-/

set_option autoImplicit false

namespace CogniDQ.Kqi.CheckEffectiveness

open CogniDQ.Python CogniDQ.Execution CogniDQ.Database

variable (runtime : Runtime)

/-! ### The documented classes -/

section Documented

/-- The value is a threshold: a number, also zero, or a value that is true. -/
def statesThreshold : Value → Bool
  | .int _ => true
  | .float _ => true
  | value => value.truthy

def ownThreshold (data : Dict) : Double :=
  if statesThreshold (data.get "threshold_pass") then
    thresholdNumber runtime (data.get "threshold_pass")
  else if statesThreshold (data.get "threshold") then
    thresholdNumber runtime (data.get "threshold")
  else .finite 80

def passes (run : CheckRun) : Bool :=
  run.status = "completed" &&
    match passRate runtime run.data with
    | .ok rate => atLeast rate (ownThreshold runtime run.data)
    | .error _ => false

def runsOf (runs : List CheckRun) (run : CheckRun) : List CheckRun :=
  runs.filter fun other => other.flowId = run.flowId ∧ other.nodeId = run.nodeId

def latestRuns (runs : List CheckRun) : List CheckRun := Grouping.firstRows runs CheckRun.key

def recentRuns (cutoff30d : Int) (runs : List CheckRun) : List CheckRun :=
  runs.filter fun run => cutoff30d ≤ run.createdAt

def AlwaysPasses (runs : List CheckRun) : Prop :=
  10 ≤ runs.length ∧ ∀ run ∈ runs, passes runtime run = true

/-- The share of failing runs reaches the threshold. -/
def AlwaysFails (runs : List CheckRun) : Prop :=
  5 ≤ runs.length ∧
    (9 / 10 : Rat) ≤ (runs.countP fun run => !passes runtime run : Nat) / (runs.length : Nat)

def SameTarget (run other : CheckRun) : Prop :=
  run.toMeta.target runtime ≠ none ∧ run.toMeta.target runtime = other.toMeta.target runtime

def InClass (classes : Classification → List CheckInfo) (class_ : Classification)
    (run : CheckRun) : Prop :=
  ∃ info ∈ classes class_, info.flowId = run.flowId ∧ info.nodeId = run.nodeId

structure Documented (cutoff30d : Int) (runs : List CheckRun)
    (classes : Classification → List CheckInfo) : Prop where
  oneClass : ∀ run ∈ runs, ∃! class_, InClass classes class_ run
  duplicates : ∀ run ∈ latestRuns runs, InClass classes .duplicate run →
    ∃ other ∈ latestRuns runs, SameTarget runtime run other ∧ run.flowId ≠ other.flowId ∧
      ¬ InClass classes .duplicate other
  alwaysPass : ∀ run ∈ runs, ¬ InClass classes .duplicate run →
    (InClass classes .alwaysPass run ↔ AlwaysPasses runtime (runsOf runs run))
  alwaysFail : ∀ run ∈ runs, ¬ InClass classes .duplicate run →
    (InClass classes .alwaysFail run ↔ ¬ AlwaysPasses runtime (runsOf runs run) ∧
      AlwaysFails runtime (recentRuns cutoff30d (runsOf runs run)))
  passed : ∀ run ∈ runs, ∀ entry, readEntry runtime run = .ok entry →
    entry.passed = passes runtime run

end Documented

/-! ### When the service classifies so -/

section Conditions

/-- The pass rate is no integer beyond the floats. -/
def Representable (run : CheckRun) : Prop :=
  ∀ value, run.data.getD "pass_rate" (.int 0) = .int value →
    ¬ ((value : Rat) ≤ -Double.limit ∨ Double.limit ≤ (value : Rat))

/-- A threshold of zero, of which the service makes another one. -/
def dropsZero (data : Dict) : Bool :=
  statesThreshold (data.get "threshold_pass") && !(data.get "threshold_pass").truthy ||
    !statesThreshold (data.get "threshold_pass") && statesThreshold (data.get "threshold") &&
      !(data.get "threshold").truthy

/-- If a threshold of zero is dropped, the pass rate is on the same side of both. -/
def KeepsThreshold (run : CheckRun) : Prop :=
  run.status = "completed" → dropsZero run.data = true →
    ∀ rate, passRate runtime run.data = .ok rate →
      atLeast rate (threshold runtime run.data) = atLeast rate (ownThreshold runtime run.data)

def labelOf (run : CheckRun) : Option String := run.toMeta.label runtime

def leader (runs : List CheckRun) (label : String) : Option CheckRun :=
  (latestRuns runs).find? fun run => labelOf runtime run = some label

/-- No check with the label of this one has a later result. -/
def Leads (runs : List CheckRun) (run : CheckRun) : Prop :=
  ∀ label, labelOf runtime run = some label →
    (leader runtime runs label).map CheckRun.key = some run.key

structure Faithful (cutoff30d : Int) (runs : List CheckRun) : Prop where
  representable : ∀ run ∈ runs, Representable run
  thresholds : ∀ run ∈ runs, KeepsThreshold runtime run
  /-- Checks with one label are of different flows and check the same. -/
  labels : ∀ label, ∀ first, leader runtime runs label = some first →
    ∀ run ∈ latestRuns runs, labelOf runtime run = some label → run.key ≠ first.key →
      SameTarget runtime run first ∧ run.flowId ≠ first.flowId
  /-- Where the newest thirty runs all pass, all runs do. -/
  passing : ∀ run ∈ latestRuns runs, Leads runtime runs run → 30 < (runsOf runs run).length →
    (∀ other ∈ (runsOf runs run).take 30, passes runtime other = true) →
      ∀ other ∈ runsOf runs run, passes runtime other = true
  /-- The newest thirty runs fail as often as all of the last thirty days. -/
  failing : ∀ run ∈ latestRuns runs, Leads runtime runs run →
    30 < (recentRuns cutoff30d (runsOf runs run)).length →
      (AlwaysFails runtime ((recentRuns cutoff30d (runsOf runs run)).take 30) ↔
        AlwaysFails runtime (recentRuns cutoff30d (runsOf runs run)))

end Conditions

/-! ### One result -/

section Results

variable {runtime}

private theorem passRate_of_representable {run : CheckRun} (representable : Representable run) :
    ∃ rate, passRate runtime run.data = .ok rate := by
  rw [passRate]
  cases given : run.data.getD "pass_rate" (.int 0) with
  | int value =>
      rw [toFloat, if_neg (representable value given)]
      exact ⟨_, rfl⟩
  | str text =>
      cases parsed : runtime.parseFloat text.toList with
      | none => exact ⟨.finite 0, by simp only [toFloat, parsed, suppress]; rfl⟩
      | some number =>
          cases number with
          | none => exact ⟨_, by simp only [toFloat, parsed, suppress]; rfl⟩
          | some number => exact ⟨_, by simp only [toFloat, parsed, suppress]; rfl⟩
  | none => exact ⟨_, rfl⟩
  | bool value => exact ⟨_, rfl⟩
  | float value => exact ⟨_, rfl⟩
  | list values => exact ⟨_, rfl⟩
  | dict entries => exact ⟨_, rfl⟩

private theorem representable_of_passRate {run : CheckRun} {rate : Double}
    (read : passRate runtime run.data = .ok rate) : Representable run := by
  intro value given beyond
  rw [passRate, given, toFloat, if_pos beyond] at read
  cases read

private theorem readEntry_passed {run : CheckRun} {entry : Entry}
    (read : readEntry runtime run = .ok entry) :
    (entry.passed = passes runtime run ↔ KeepsThreshold runtime run) ∧
      entry.createdAt = run.createdAt := by
  obtain ⟨rate, found, read⟩ := bind_eq_ok read
  obtain rfl := Except.ok.inj read
  refine ⟨?_, rfl⟩
  have same : dropsZero run.data = false →
      threshold runtime run.data = ownThreshold runtime run.data := by
    intro kept
    have truthyStates : ∀ value : Value, value.truthy = true → statesThreshold value = true := by
      intro value true_
      cases value <;> first | rfl | exact true_
    simp only [dropsZero, Bool.or_eq_false_iff, Bool.and_eq_false_iff, Bool.not_eq_false'] at kept
    rw [threshold, ownThreshold]
    cases first : (run.data.get "threshold_pass").truthy with
    | true => simp [Value.or, first, truthyStates _ first]
    | false =>
        have unstated : statesThreshold (run.data.get "threshold_pass") = false := by
          simpa [first] using kept.1
        cases second : (run.data.get "threshold").truthy with
        | true => simp [Value.or, first, second, unstated, truthyStates _ second]
        | false =>
            have silent : statesThreshold (run.data.get "threshold") = false := by
              simpa [second, unstated] using kept.2
            simp [Value.or, first, second, unstated, silent]
  simp only [passes, found, KeepsThreshold]
  by_cases completed : run.status = "completed"
  · simp only [completed, decide_true, Bool.true_and, forall_const]
    constructor
    · intro equal _ other read
      obtain rfl := Except.ok.inj read
      exact equal
    · intro keeps
      cases dropped : dropsZero run.data with
      | false => rw [same dropped]
      | true => exact keeps dropped rate rfl
  · simp [completed]

end Results

/-! ### The newest thirty runs -/

section Cap

variable {runtime}

private theorem failRate_exact : ∀ runs < 31, ∀ passes < runs + 1,
    decide (alwaysFailingRateThreshold ≤ failRate passes runs) =
      decide (runs = 0 ∨ 10 * passes ≤ runs) := by
  decide +kernel

private theorem reaches_iff {passes runs : Nat} (given : 0 < runs) (within : passes ≤ runs) :
    (9 / 10 : Rat) ≤ (runs - passes : Nat) / (runs : Nat) ↔ 10 * passes ≤ runs := by
  have positive : (0 : Rat) < runs := by exact_mod_cast given
  rw [div_le_div_iff₀ (by norm_num) positive, Nat.cast_sub within]
  constructor
  · intro share
    have scaled : (10 * passes : Rat) ≤ runs := by linarith
    exact_mod_cast scaled
  · intro few
    have scaled : (10 * passes : Rat) ≤ runs := by exact_mod_cast few
    linarith

theorem alwaysFails_iff (runs : List CheckRun) :
    AlwaysFails runtime runs ↔
      5 ≤ runs.length ∧ 10 * runs.countP (passes runtime) ≤ runs.length := by
  have failing : (runs.countP fun run => !passes runtime run) =
      runs.length - runs.countP (passes runtime) := by
    rw [List.length_eq_countP_add_countP (passes runtime), Nat.add_sub_cancel_left]
    exact List.countP_congr fun run _ => by simp
  refine and_congr_right fun enough => ?_
  rw [failing, reaches_iff (by omega) List.countP_le_length]

private theorem not_alwaysFails_of_passes {runs : List CheckRun}
    (all : ∀ run ∈ runs, passes runtime run = true) : ¬ AlwaysFails runtime runs := by
  rw [alwaysFails_iff, List.countP_eq_length.mpr all]
  omega

private theorem alwaysPasses_take_iff (runs : List CheckRun) :
    (AlwaysPasses runtime (runs.take 30) ↔ AlwaysPasses runtime runs) ↔
      (30 < runs.length → (∀ run ∈ runs.take 30, passes runtime run = true) →
        ∀ run ∈ runs, passes runtime run = true) := by
  have fewer : (∀ run ∈ runs, passes runtime run = true) →
      ∀ run ∈ runs.take 30, passes runtime run = true :=
    fun all run member => all run (List.mem_of_mem_take member)
  simp only [AlwaysPasses, List.length_take]
  constructor
  · intro same long kept
    exact (same.mp ⟨by omega, kept⟩).2
  · intro older
    by_cases long : 30 < runs.length
    · constructor
      · rintro ⟨_, kept⟩
        exact ⟨by omega, older long kept⟩
      · rintro ⟨_, all⟩
        exact ⟨by omega, fewer all⟩
    · rw [List.take_of_length_le (by omega)]
      constructor
      · rintro ⟨enough, all⟩
        exact ⟨by omega, all⟩
      · rintro ⟨enough, all⟩
        exact ⟨by omega, all⟩

private theorem recentRuns_take {cutoff30d : Int} {runs : List CheckRun}
    (sorted : runs.Pairwise fun first second => -first.createdAt ≤ -second.createdAt)
    (count : Nat) :
    recentRuns cutoff30d (runs.take count) = (recentRuns cutoff30d runs).take count := by
  induction runs generalizing count with
  | nil => simp [recentRuns]
  | cons run rest ih =>
      obtain ⟨newer, sorted⟩ := List.pairwise_cons.mp sorted
      cases count with
      | zero => rfl
      | succ count =>
          have later := ih sorted count
          simp only [recentRuns] at later
          simp only [recentRuns, List.take_succ_cons, List.filter_cons]
          split
          · rw [later, List.take_succ_cons]
          · rename_i old
            have none : rest.filter (fun other => cutoff30d ≤ other.createdAt) = [] := by
              rw [List.filter_eq_nil_iff]
              intro other member
              have before := newer other member
              simp only [decide_eq_true_eq] at old ⊢
              omega
            rw [later, none]
            simp

/-- The classes of a check that is no duplicate agree with the documented ones exactly if the runs
past the newest thirty make no difference. -/
theorem capped_iff {runs recent : List CheckRun} (sub : ∀ run ∈ recent, run ∈ runs) :
    ((AlwaysPasses runtime (runs.take 30) ↔ AlwaysPasses runtime runs) ∧
      (¬ AlwaysPasses runtime (runs.take 30) ∧ AlwaysFails runtime (recent.take 30) ↔
        ¬ AlwaysPasses runtime runs ∧ AlwaysFails runtime recent)) ↔
    ((30 < runs.length → (∀ run ∈ runs.take 30, passes runtime run = true) →
        ∀ run ∈ runs, passes runtime run = true) ∧
      (30 < recent.length → (AlwaysFails runtime (recent.take 30) ↔ AlwaysFails runtime recent))) := by
  rw [alwaysPasses_take_iff]
  refine and_congr_right fun older => ?_
  rw [(alwaysPasses_take_iff runs).mpr older]
  by_cases all : AlwaysPasses runtime runs
  · have passing : ∀ run ∈ recent, passes runtime run = true := fun run member =>
      all.2 run (sub run member)
    have never := not_alwaysFails_of_passes passing
    have neverTaken := not_alwaysFails_of_passes fun run member =>
      passing run (List.mem_of_mem_take (i := 30) member)
    simp [all, never, neverTaken]
  · simp only [all, not_false_eq_true, true_and]
    constructor
    · exact fun same _ => same
    · intro long
      by_cases more : 30 < recent.length
      · exact long more
      · rw [List.take_of_length_le (by omega)]

end Cap

/-! ### The classes of the service -/

section Classes

variable {runtime}

theorem cut_unique {mark : Char} {first second rest other : List Char} (absent : mark ∉ first)
    (missing : mark ∉ second) (same : first ++ mark :: rest = second ++ mark :: other) :
    first = second ∧ rest = other := by
  induction first generalizing second with
  | nil =>
      cases second with
      | nil => exact ⟨rfl, (List.cons.inj same).2⟩
      | cons c second =>
          obtain rfl := (List.cons.inj same).1
          exact absurd List.mem_cons_self missing
  | cons c first ih =>
      cases second with
      | nil =>
          obtain rfl := (List.cons.inj same).1
          exact absurd List.mem_cons_self absent
      | cons d second =>
          obtain ⟨rfl, tails⟩ := List.cons.inj same
          obtain ⟨rfl, rests⟩ := ih (fun member => absent (List.mem_cons_of_mem _ member))
            (fun member => missing (List.mem_cons_of_mem _ member)) tails
          exact ⟨rfl, rests⟩

private theorem key_eq_iff {run other : CheckRun} :
    run.key = other.key ↔ run.flowId = other.flowId ∧ run.nodeId = other.nodeId := by
  constructor
  · intro same
    have chars := congrArg String.toList same
    simp only [CheckRun.key, String.toList_append, List.append_assoc] at chars
    obtain ⟨flows, nodes⟩ := cut_unique run.flowId.plain other.flowId.plain chars
    refine ⟨?_, String.toList_inj.mp nodes⟩
    cases left : run.flowId with
    | mk text plain =>
        cases right : other.flowId with
        | mk otherText otherPlain =>
            rw [left, right] at flows
            obtain rfl := String.toList_inj.mp flows
            rfl
  · rintro ⟨flows, nodes⟩
    rw [CheckRun.key, CheckRun.key, flows, nodes]

theorem runsOf_eq (runs : List CheckRun) (run : CheckRun) :
    runsOf runs run = runs.filter fun other => other.key = run.key := by
  refine List.filter_congr fun other _ => ?_
  simp [key_eq_iff]

def entryOf (runtime : Runtime) (run : CheckRun) : Entry :=
  let rate := match passRate runtime run.data with
    | .ok rate => rate
    | .error _ => .finite 0
  { passed := run.status = "completed" && atLeast rate (threshold runtime run.data)
    passRate := rate
    createdAt := run.createdAt }

theorem readEntry_of_representable {run : CheckRun} (representable : Representable run) :
    readEntry runtime run = .ok (entryOf runtime run) := by
  obtain ⟨rate, found⟩ := @passRate_of_representable runtime run representable
  simp only [readEntry, entryOf, found]
  rfl

private theorem representable_of_readEntry {run : CheckRun} {entry : Entry}
    (read : readEntry runtime run = .ok entry) : Representable run := by
  obtain ⟨rate, found, _⟩ := bind_eq_ok read
  exact representable_of_passRate found

theorem readEntries {runs : List CheckRun} (representable : ∀ run ∈ runs, Representable run) :
    runs.mapM (readEntry runtime) = .ok (runs.map (entryOf runtime)) := by
  induction runs with
  | nil => rfl
  | cons run rest ih =>
      rw [List.mapM_cons, readEntry_of_representable (representable run List.mem_cons_self),
        ih fun other member => representable other (List.mem_cons_of_mem _ member)]
      rfl

theorem representable_of_readEntries {runs : List CheckRun} {entries : List Entry}
    (read : runs.mapM (readEntry runtime) = .ok entries) : ∀ run ∈ runs, Representable run := by
  induction runs generalizing entries with
  | nil => exact fun run member => absurd member List.not_mem_nil
  | cons run rest ih =>
      rw [List.mapM_cons] at read
      obtain ⟨entry, first, read⟩ := bind_eq_ok read
      obtain ⟨later, others, _⟩ := bind_eq_ok read
      exact List.forall_mem_cons.mpr ⟨representable_of_readEntry first, ih others⟩

def historyOf (runtime : Runtime) (runs : List CheckRun) (run : CheckRun) : List Entry :=
  ((runsOf runs run).take 30).map (entryOf runtime)

def marked (runtime : Runtime) (runs : List CheckRun) : List String :=
  duplicateKeys runtime (Grouping.firsts (runs.map fun run => (run.key, run.toMeta)))

def verdictOf (cutoff30d : Int) (duplicate : Bool) (history : List Entry) : Classification :=
  if duplicate then .duplicate
  else if alwaysPassing history then .alwaysPass
  else if alwaysFailing (recentEntries cutoff30d history) then .alwaysFail
  else if 2 ≤ history.length ∧ noisyFlipRateThreshold < flipRate history then .noisy
  else .effective

def verdict (runtime : Runtime) (cutoff30d : Int) (runs : List CheckRun) (run : CheckRun) :
    Classification :=
  verdictOf cutoff30d (decide (run.key ∈ marked runtime runs)) (historyOf runtime runs run)

private theorem classifyCheck_eq {cutoff30d : Int} {duplicates : List String} {key : String}
    {check : CheckMeta} {history : List Entry} (given : history ≠ []) :
    ∃ info : CheckInfo, info.toCheckMeta = check ∧
      classifyCheck runtime cutoff30d duplicates key check history =
        some (verdictOf cutoff30d (decide (key ∈ duplicates)) history, info) := by
  have runs : history.length ≠ 0 := mt List.length_eq_zero_iff.mp given
  simp only [classifyCheck, verdictOf, decide_eq_true_eq, if_neg runs]
  split
  · exact ⟨plainInfo check, rfl, rfl⟩
  split
  · exact ⟨plainInfo check, rfl, rfl⟩
  split
  · exact ⟨_, rfl, rfl⟩
  split
  · exact ⟨_, rfl, rfl⟩
  · exact ⟨plainInfo check, rfl, rfl⟩

theorem key_mem_latest {runs : List CheckRun} {run : CheckRun} (member : run ∈ runs) :
    ∃ latest ∈ latestRuns runs, latest.key = run.key :=
  Grouping.exists_firstRow member

theorem mem_of_latest {runs : List CheckRun} {run : CheckRun} (latest : run ∈ latestRuns runs) :
    run ∈ runs :=
  (List.mem_filter.mp (List.mem_of_head? (Grouping.mem_firstRows.mp latest))).1

theorem verdict_congr {cutoff30d : Int} {runs : List CheckRun} {run other : CheckRun}
    (same : run.key = other.key) :
    verdict runtime cutoff30d runs run = verdict runtime cutoff30d runs other := by
  rw [verdict, verdict, historyOf, historyOf, runsOf_eq, runsOf_eq, same]

private theorem gathered (runs : List CheckRun) :
    Grouping.gather (fun count => count < maxRunsPerCheck)
        ((runs.map CheckRun.key).zip (runs.map (entryOf runtime))) =
      (latestRuns runs).map fun run => (run.key, historyOf runtime runs run) := by
  rw [List.zip_map', Grouping.gather_eq, Grouping.keys_map, ← Grouping.map_firstRows, List.map_map]
  refine List.map_congr_left fun run _ => ?_
  rw [Function.comp_apply, Grouping.valuesOf_map, Grouping.collect_lt, historyOf, runsOf_eq,
    List.map_take]
  rfl

theorem inClass_iff {cutoff30d : Int} {runs : List CheckRun}
    {classes : Classification → List CheckInfo}
    (classified : classifyRuns runtime cutoff30d runs = .ok classes) {class_ : Classification}
    {run : CheckRun} (member : run ∈ runs) :
    InClass classes class_ run ↔ verdict runtime cutoff30d runs run = class_ := by
  obtain ⟨entries, read, classified⟩ := bind_eq_ok classified
  have representable := representable_of_readEntries read
  obtain rfl := Except.ok.inj ((readEntries representable).symm.trans read)
  obtain rfl := Except.ok.inj classified
  have each : ∀ latest ∈ latestRuns runs, ∃ info : CheckInfo, info.toCheckMeta = latest.toMeta ∧
      ((Grouping.firsts (runs.map fun run => (run.key, run.toMeta))).lookup latest.key).bind
        (fun check => classifyCheck runtime cutoff30d (marked runtime runs) latest.key check
          (historyOf runtime runs latest)) = some (verdict runtime cutoff30d runs latest, info) := by
    intro latest listed
    have given : historyOf runtime runs latest ≠ [] := by
      have own : latest ∈ runsOf runs latest := by
        simpa [runsOf] using mem_of_latest listed
      obtain ⟨first, rest, some⟩ := List.exists_cons_of_ne_nil (List.ne_nil_of_mem own)
      simp [historyOf, some]
    obtain ⟨info, same, result⟩ := @classifyCheck_eq runtime cutoff30d (marked runtime runs)
      latest.key latest.toMeta _ given
    exact ⟨info, same, by rw [Grouping.lookup_firsts_map listed]; exact result⟩
  rw [InClass, gathered, List.filterMap_map]
  constructor
  · rintro ⟨info, listed, flow, node⟩
    obtain ⟨item, found, kept⟩ := List.mem_filterMap.mp listed
    obtain ⟨latest, of, result⟩ := List.mem_filterMap.mp found
    obtain ⟨own, same, expected⟩ := each latest of
    obtain rfl := Option.some.inj (expected.symm.trans result)
    split at kept
    · rename_i right
      obtain rfl := Option.some.inj kept
      have key : run.key = latest.key := by
        rw [key_eq_iff, ← flow, ← node, same]
        exact ⟨rfl, rfl⟩
      rw [verdict_congr key]
      exact right
    · cases kept
  · intro right
    obtain ⟨latest, of, key⟩ := key_mem_latest member
    obtain ⟨own, same, expected⟩ := each latest of
    obtain ⟨flow, node⟩ := key_eq_iff.mp key
    refine ⟨own, List.mem_filterMap.mpr ⟨_, List.mem_filterMap.mpr ⟨latest, of, expected⟩, ?_⟩, ?_⟩
    · rw [if_pos ((verdict_congr key).trans right)]
    · rw [same]
      exact ⟨flow, node⟩

/-! ### Duplicates -/

theorem nodup_latest (runs : List CheckRun) : ((latestRuns runs).map CheckRun.key).Nodup := by
  rw [latestRuns, Grouping.map_firstRows]
  exact Grouping.nodup_eraseDups _

theorem eq_of_latest {runs : List CheckRun} {run other : CheckRun} (latest : run ∈ latestRuns runs)
    (listed : other ∈ latestRuns runs) (same : run.key = other.key) : run = other :=
  List.inj_on_of_nodup_map (nodup_latest runs) latest listed same

private theorem valuesOf_labelled (runs : List CheckRun) (label : String) :
    Grouping.valuesOf (runs.filterMap fun run =>
        (labelOf runtime run).map fun label => (label, run.key)) label =
      (runs.filter fun run => labelOf runtime run = some label).map CheckRun.key := by
  induction runs with
  | nil => rfl
  | cons run rest ih =>
      rw [Grouping.valuesOf] at ih ⊢
      rw [List.filterMap_cons]
      cases own : labelOf runtime run with
      | none => simpa [own] using ih
      | some found =>
          by_cases same : found = label
          · simpa [own, same] using ih
          · simpa [own, same] using ih

private theorem mem_drop_one {values : List String} (unique : values.Nodup) {value : String} :
    value ∈ values.drop 1 ↔ value ∈ values ∧ values.head? ≠ some value := by
  cases values with
  | nil => simp
  | cons first rest =>
      obtain ⟨absent, _⟩ := List.nodup_cons.mp unique
      rw [List.drop_one, List.tail_cons, List.head?_cons, List.mem_cons]
      constructor
      · intro later
        refine ⟨.inr later, fun same => absent ?_⟩
        rw [Option.some.inj same]
        exact later
      · rintro ⟨rfl | later, other⟩
        · exact absurd rfl other
        · exact later

theorem mem_marked_iff {runs : List CheckRun} {run : CheckRun} (latest : run ∈ latestRuns runs) :
    run.key ∈ marked runtime runs ↔ ¬ Leads runtime runs run := by
  have labelled : ((Grouping.firsts (runs.map fun run => (run.key, run.toMeta))).filterMap
      fun item => (item.2.label runtime).map fun label => (label, item.1)) =
        (latestRuns runs).filterMap fun run =>
          (labelOf runtime run).map fun label => (label, run.key) := by
    rw [Grouping.firsts_map, List.filterMap_map]
    rfl
  have group (label : String) (own : labelOf runtime run = some label) :
      run.key ∈ (((latestRuns runs).filter fun run => labelOf runtime run = some label).map
        CheckRun.key).drop 1 ↔
      (leader runtime runs label).map CheckRun.key ≠ some run.key := by
    have unique : (((latestRuns runs).filter fun run => labelOf runtime run = some label).map
        CheckRun.key).Nodup := (nodup_latest runs).sublist (List.filter_sublist.map _)
    rw [mem_drop_one unique, List.head?_map, List.head?_filter, leader]
    refine and_iff_right (List.mem_map.mpr ⟨run, List.mem_filter.mpr ⟨latest, ?_⟩, rfl⟩)
    simpa using own
  rw [marked, duplicateKeys, labelled, Grouping.gather_eq, List.mem_flatMap]
  simp only [List.mem_map, Leads, not_forall]
  constructor
  · rintro ⟨_, ⟨label, _, rfl⟩, later⟩
    rw [Grouping.collect_all, valuesOf_labelled] at later
    obtain ⟨other, listed, same⟩ := List.mem_map.mp (List.mem_of_mem_drop later)
    obtain ⟨found, own⟩ := List.mem_filter.mp listed
    obtain rfl := eq_of_latest found latest same
    have own : labelOf runtime other = some label := by simpa using own
    exact ⟨label, own, (group label own).mp later⟩
  · rintro ⟨label, own, other⟩
    refine ⟨_, ⟨label, ?_, rfl⟩, ?_⟩
    · refine Grouping.mem_keys.mpr ⟨run.key, List.mem_filterMap.mpr ⟨run, latest, ?_⟩⟩
      rw [own]
      rfl
    · rw [Grouping.collect_all, valuesOf_labelled]
      exact (group label own).mpr other

private theorem leads_leader {runs : List CheckRun} {label : String} {first : CheckRun}
    (leads : leader runtime runs label = some first) :
    first ∈ latestRuns runs ∧ labelOf runtime first = some label ∧ Leads runtime runs first := by
  have own : labelOf runtime first = some label := by simpa using List.find?_some leads
  refine ⟨List.mem_of_find?_eq_some leads, own, ?_⟩
  intro other same
  obtain rfl := Option.some.inj (own.symm.trans same)
  rw [leads]
  rfl

private theorem exists_leader {runs : List CheckRun} {run : CheckRun} {label : String}
    (latest : run ∈ latestRuns runs) (own : labelOf runtime run = some label) :
    ∃ first, leader runtime runs label = some first := by
  rw [← Option.isSome_iff_exists, leader, List.find?_isSome]
  exact ⟨run, latest, by simpa using own⟩

private theorem labelOf_of_target {run other : CheckRun} (same : SameTarget runtime run other) :
    labelOf runtime run = labelOf runtime other ∧ labelOf runtime run ≠ none := by
  obtain ⟨given, equal⟩ := same
  constructor
  · rw [labelOf, labelOf, CheckMeta.label, CheckMeta.label, equal]
  · rw [labelOf, CheckMeta.label, ne_eq, Option.map_eq_none_iff]
    exact given

end Classes

/-! ### Faithful classes -/

section Agreement

variable {runtime} {cutoff30d : Int} {runs : List CheckRun}

/-- The service and the documentation agree on which of the runs pass. -/
def Agrees (runtime : Runtime) (runs : List CheckRun) : Prop :=
  ∀ run ∈ runs, (entryOf runtime run).passed = passes runtime run

theorem Agrees.map_passed (agrees : Agrees runtime runs) :
    ((runs.map (entryOf runtime)).map Entry.passed) = runs.map (passes runtime) := by
  rw [List.map_map]
  exact List.map_congr_left agrees

theorem count_passed (runs : List CheckRun) :
    (runs.map (passes runtime)).count true = runs.countP (passes runtime) := by
  rw [List.count, List.countP_map]
  exact List.countP_congr fun run _ => by simp

private theorem alwaysPassing_iff (agrees : Agrees runtime runs) :
    alwaysPassing (runs.map (entryOf runtime)) = true ↔ AlwaysPasses runtime runs := by
  rw [alwaysPassing, agrees.map_passed, count_passed, Bool.and_eq_true, decide_eq_true_iff,
    decide_eq_true_iff, List.length_map, List.countP_eq_length]
  rfl

private theorem alwaysFailing_iff (agrees : Agrees runtime runs) (capped : runs.length ≤ 30) :
    alwaysFailing (runs.map (entryOf runtime)) = true ↔ AlwaysFails runtime runs := by
  have within : runs.countP (passes runtime) ≤ runs.length := List.countP_le_length
  have share := failRate_exact runs.length (by omega) (runs.countP (passes runtime)) (by omega)
  rw [decide_eq_decide] at share
  rw [alwaysFailing, agrees.map_passed, count_passed, Bool.and_eq_true, decide_eq_true_iff,
    decide_eq_true_iff, List.length_map, share, alwaysFails_iff, alwaysFailingMinRuns]
  omega

private theorem recentEntries_map (runs : List CheckRun) :
    recentEntries cutoff30d (runs.map (entryOf runtime)) =
      (recentRuns cutoff30d runs).map (entryOf runtime) := by
  rw [recentEntries, recentRuns, List.filter_map]
  rfl

private theorem verdictOf_duplicate_iff {duplicate : Bool} {history : List Entry} :
    verdictOf cutoff30d duplicate history = .duplicate ↔ duplicate = true := by
  cases duplicate with
  | true => simp [verdictOf]
  | false =>
      simp only [verdictOf, Bool.false_eq_true, if_false, iff_false]
      split_ifs <;> exact nofun

private theorem verdictOf_alwaysPass_iff {history : List Entry} :
    verdictOf cutoff30d false history = .alwaysPass ↔ alwaysPassing history = true := by
  cases passing : alwaysPassing history with
  | true => simp [verdictOf, passing]
  | false =>
      simp only [verdictOf, passing, Bool.false_eq_true, if_false, iff_false]
      split_ifs <;> exact nofun

private theorem verdictOf_alwaysFail_iff {history : List Entry} :
    verdictOf cutoff30d false history = .alwaysFail ↔
      ¬ alwaysPassing history = true ∧
        alwaysFailing (recentEntries cutoff30d history) = true := by
  cases passing : alwaysPassing history with
  | true => simp [verdictOf, passing]
  | false =>
      cases failing : alwaysFailing (recentEntries cutoff30d history) with
      | true => simp [verdictOf, passing, failing]
      | false =>
          simp only [verdictOf, passing, failing, Bool.false_eq_true, if_false, and_false, iff_false]
          split_ifs <;> exact nofun

theorem verdict_duplicate_iff {run : CheckRun} :
    verdict runtime cutoff30d runs run = .duplicate ↔ run.key ∈ marked runtime runs := by
  rw [verdict, verdictOf_duplicate_iff, decide_eq_true_iff]

theorem verdict_of_unmarked
    (sorted : runs.Pairwise fun first second => -first.createdAt ≤ -second.createdAt)
    (agrees : Agrees runtime runs) {run : CheckRun} (unmarked : run.key ∉ marked runtime runs) :
    (verdict runtime cutoff30d runs run = .alwaysPass ↔
      AlwaysPasses runtime ((runsOf runs run).take 30)) ∧
    (verdict runtime cutoff30d runs run = .alwaysFail ↔
      ¬ AlwaysPasses runtime ((runsOf runs run).take 30) ∧
        AlwaysFails runtime ((recentRuns cutoff30d (runsOf runs run)).take 30)) := by
  have own : ∀ other ∈ (runsOf runs run).take 30, other ∈ runs := fun other member =>
    (List.mem_filter.mp (List.mem_of_mem_take member)).1
  have recent : ∀ other ∈ (recentRuns cutoff30d (runsOf runs run)).take 30, other ∈ runs :=
    fun other member =>
      (List.mem_filter.mp (List.mem_filter.mp (List.mem_of_mem_take member)).1).1
  have passing := alwaysPassing_iff fun other member => agrees other (own other member)
  have failing := alwaysFailing_iff (fun other member => agrees other (recent other member))
    (List.length_take_le ..)
  have ordered : (runsOf runs run).Pairwise fun first second =>
      -first.createdAt ≤ -second.createdAt := sorted.filter _
  have newest : recentEntries cutoff30d (historyOf runtime runs run) =
      ((recentRuns cutoff30d (runsOf runs run)).take 30).map (entryOf runtime) := by
    rw [historyOf, recentEntries_map, recentRuns_take ordered]
  rw [← passing, ← failing, ← newest, ← historyOf, verdict, decide_eq_false unmarked]
  exact ⟨verdictOf_alwaysPass_iff, verdictOf_alwaysFail_iff⟩

private theorem duplicates_iff {classes : Classification → List CheckInfo}
    (classified : classifyRuns runtime cutoff30d runs = .ok classes) :
    (∀ run ∈ latestRuns runs, InClass classes .duplicate run →
      ∃ other ∈ latestRuns runs, SameTarget runtime run other ∧ run.flowId ≠ other.flowId ∧
        ¬ InClass classes .duplicate other) ↔
    ∀ label, ∀ first, leader runtime runs label = some first →
      ∀ run ∈ latestRuns runs, labelOf runtime run = some label → run.key ≠ first.key →
        SameTarget runtime run first ∧ run.flowId ≠ first.flowId := by
  have duplicate : ∀ run ∈ latestRuns runs,
      InClass classes .duplicate run ↔ ¬ Leads runtime runs run := by
    intro run latest
    rw [inClass_iff classified (mem_of_latest latest), verdict_duplicate_iff, mem_marked_iff latest]
  constructor
  · intro documented label first leads run latest own distinct
    have follows : ¬ Leads runtime runs run := by
      intro leading
      have led := leading label own
      rw [leads] at led
      exact distinct (Option.some.inj led).symm
    obtain ⟨other, listed, same, flows, kept⟩ :=
      documented run latest ((duplicate run latest).mpr follows)
    have leading := not_not.mp (mt (duplicate other listed).mpr kept)
    have led := leading label ((labelOf_of_target same).1.symm.trans own)
    rw [leads] at led
    obtain rfl := eq_of_latest (leads_leader leads).1 listed (Option.some.inj led)
    exact ⟨same, flows⟩
  · intro labels run latest member
    have follows := (duplicate run latest).mp member
    simp only [Leads, not_forall] at follows
    obtain ⟨label, own, other⟩ := follows
    obtain ⟨first, leads⟩ := exists_leader latest own
    have distinct : run.key ≠ first.key := by
      intro equal
      rw [leads, equal] at other
      exact other rfl
    obtain ⟨same, flows⟩ := labels label first leads run latest own distinct
    obtain ⟨listed, _, leading⟩ := leads_leader leads
    exact ⟨first, listed, same, flows, fun marked => (duplicate first listed).mp marked leading⟩

private theorem harmless_of_documented
    (sorted : runs.Pairwise fun first second => -first.createdAt ≤ -second.createdAt)
    (agrees : Agrees runtime runs) {classes : Classification → List CheckInfo}
    (classified : classifyRuns runtime cutoff30d runs = .ok classes)
    (documented : Documented runtime cutoff30d runs classes) {run : CheckRun}
    (latest : run ∈ latestRuns runs) (leads : Leads runtime runs run) :
    (30 < (runsOf runs run).length →
      (∀ other ∈ (runsOf runs run).take 30, passes runtime other = true) →
        ∀ other ∈ runsOf runs run, passes runtime other = true) ∧
    (30 < (recentRuns cutoff30d (runsOf runs run)).length →
      (AlwaysFails runtime ((recentRuns cutoff30d (runsOf runs run)).take 30) ↔
        AlwaysFails runtime (recentRuns cutoff30d (runsOf runs run)))) := by
  have member := mem_of_latest latest
  have unmarked : run.key ∉ marked runtime runs := fun found => (mem_marked_iff latest).mp found leads
  have kept : ¬ InClass classes .duplicate run := by
    rw [inClass_iff classified member, verdict_duplicate_iff]
    exact unmarked
  obtain ⟨passing, failing⟩ := @verdict_of_unmarked _ cutoff30d _ sorted agrees _ unmarked
  have allPass := documented.alwaysPass run member kept
  have mostFail := documented.alwaysFail run member kept
  rw [inClass_iff classified member, passing] at allPass
  rw [inClass_iff classified member, failing] at mostFail
  exact (capped_iff fun other found => (List.mem_filter.mp found).1).mp ⟨allPass, mostFail⟩

private theorem classes_of_faithful
    (sorted : runs.Pairwise fun first second => -first.createdAt ≤ -second.createdAt)
    (agrees : Agrees runtime runs) {classes : Classification → List CheckInfo}
    (classified : classifyRuns runtime cutoff30d runs = .ok classes)
    (faithful : Faithful runtime cutoff30d runs) {run : CheckRun} (member : run ∈ runs)
    (kept : ¬ InClass classes .duplicate run) :
    (InClass classes .alwaysPass run ↔ AlwaysPasses runtime (runsOf runs run)) ∧
      (InClass classes .alwaysFail run ↔ ¬ AlwaysPasses runtime (runsOf runs run) ∧
        AlwaysFails runtime (recentRuns cutoff30d (runsOf runs run))) := by
  obtain ⟨latest, listed, same⟩ := key_mem_latest member
  have own : runsOf runs run = runsOf runs latest := by rw [runsOf_eq, runsOf_eq, same]
  rw [inClass_iff classified member, verdict_duplicate_iff, ← same] at kept
  have leads : Leads runtime runs latest := by
    rw [mem_marked_iff listed, not_not] at kept
    exact kept
  obtain ⟨passing, failing⟩ := @verdict_of_unmarked _ cutoff30d _ sorted agrees _ kept
  rw [inClass_iff classified member, inClass_iff classified member, ← verdict_congr same, passing,
    failing, own]
  exact (capped_iff fun other found => (List.mem_filter.mp found).1).mpr
    ⟨faithful.passing latest listed leads, faithful.failing latest listed leads⟩

/-- The classes are the documented ones exactly if the results are ones that the service reads
faithfully. -/
theorem classifyAllChecks_documented_iff (order : NewestFirst) (now : Int) (workspaceId : String)
    (results : List CheckRun) :
    (∃ classes, classifyAllChecks runtime order now workspaceId results = .ok classes ∧
      Documented runtime (cutoff now 30) (checkRuns order workspaceId (cutoff now 90) results)
        classes) ↔
      Faithful runtime (cutoff now 30) (checkRuns order workspaceId (cutoff now 90) results) := by
  have sorted : (checkRuns order workspaceId (cutoff now 90) results).Pairwise
      fun first second => -first.createdAt ≤ -second.createdAt := order.ascending _
  simp only [classifyAllChecks]
  generalize checkRuns order workspaceId (cutoff now 90) results = runs at sorted ⊢
  have entries : ∀ run ∈ runs, Representable run →
      ((entryOf runtime run).passed = passes runtime run ↔ KeepsThreshold runtime run) :=
    fun run _ representable => (readEntry_passed (readEntry_of_representable representable)).1
  constructor
  · rintro ⟨classes, classified, documented⟩
    obtain ⟨_, read, _⟩ := bind_eq_ok classified
    have representable := representable_of_readEntries read
    have agrees : Agrees runtime runs := fun run member =>
      documented.passed run member _ (readEntry_of_representable (representable run member))
    constructor
    · exact representable
    · exact fun run member => (entries run member (representable run member)).mp (agrees run member)
    · exact (duplicates_iff classified).mp documented.duplicates
    · exact fun run latest leads =>
        (harmless_of_documented sorted agrees classified documented latest leads).1
    · exact fun run latest leads =>
        (harmless_of_documented sorted agrees classified documented latest leads).2
  · intro faithful
    have read := @readEntries runtime runs faithful.representable
    obtain ⟨classes, classified⟩ :
        ∃ classes, classifyRuns runtime (cutoff now 30) runs = .ok classes :=
      ⟨_, by rw [classifyRuns, read]; rfl⟩
    have agrees : Agrees runtime runs := fun run member =>
      (entries run member (faithful.representable run member)).mpr (faithful.thresholds run member)
    refine ⟨classes, classified, ?_⟩
    constructor
    · intro run member
      refine ⟨verdict runtime (cutoff now 30) runs run, (inClass_iff classified member).mpr rfl, ?_⟩
      exact fun class_ found => ((inClass_iff classified member).mp found).symm
    · exact (duplicates_iff classified).mpr faithful.labels
    · exact fun run member kept =>
        (classes_of_faithful sorted agrees classified faithful member kept).1
    · exact fun run member kept =>
        (classes_of_faithful sorted agrees classified faithful member kept).2
    · intro run member entry found
      have representable := faithful.representable run member
      obtain rfl := Except.ok.inj ((readEntry_of_representable representable).symm.trans found)
      exact agrees run member

private def zeroRuntime : Runtime :=
  { Runtime.ascii with parseFloat := fun text => if text = ['0'] then some (some 0) else none }

private def halfPassed : CheckRun where
  workspaceId := "w"
  flowId := ⟨"f", by decide⟩
  flowName := "flow"
  nodeId := "n"
  nodeType := "check"
  status := "completed"
  resultData := some [("pass_rate", .float 50), ("threshold_pass", .int 0)]
  createdAt := 0

theorem zero_threshold_undocumented :
    ¬ ∃ classes, classifyAllChecks zeroRuntime (OrderBy.stable _) 0 "w" [halfPassed] = .ok classes ∧
      Documented zeroRuntime (cutoff 0 30)
        (checkRuns (OrderBy.stable _) "w" (cutoff 0 90) [halfPassed]) classes := by
  rintro ⟨classes, _, documented⟩
  have listed : halfPassed ∈ checkRuns (OrderBy.stable _) "w" (cutoff 0 90) [halfPassed] :=
    ((OrderBy.stable _).perm _).mem_iff.mpr (List.mem_filter.mpr ⟨List.mem_singleton_self _, rfl⟩)
  have same : false = true :=
    documented.passed halfPassed listed ⟨false, .finite 50, 0⟩ rfl
  cases same

end Agreement

end CogniDQ.Kqi.CheckEffectiveness
