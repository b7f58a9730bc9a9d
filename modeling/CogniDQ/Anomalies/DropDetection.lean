import CogniDQ.Anomalies.PassRateAnomalies

/-!
# Which drops are detected

A drop after level pass rates is reported from six executions on, however large it is. Lowering the
newest pass rate of any history keeps a report and does not soften it.
-/

set_option autoImplicit false

namespace CogniDQ.Anomalies

open CogniDQ.Database CogniDQ.Python

variable {Uuid : Type} [DecidableEq Uuid]

def RuleExecution.rated (id : Uuid) (rate : Rat) (execution : RuleExecution Uuid) :
    RuleExecution Uuid :=
  if execution.id = id then { execution with passRate := some rate } else execution

section Rated

variable (id : Uuid) (rate : Rat) (execution : RuleExecution Uuid)

@[simp] theorem rated_id : (execution.rated id rate).id = execution.id := by
  unfold RuleExecution.rated
  split <;> rfl

@[simp] theorem rated_ruleId : (execution.rated id rate).ruleId = execution.ruleId := by
  unfold RuleExecution.rated
  split <;> rfl

@[simp] theorem rated_status : (execution.rated id rate).status = execution.status := by
  unfold RuleExecution.rated
  split <;> rfl

@[simp] theorem rated_startedAt : (execution.rated id rate).startedAt = execution.startedAt := by
  unfold RuleExecution.rated
  split <;> rfl

end Rated

theorem rated_self {rate : Rat} {execution : RuleExecution Uuid} :
    (execution.rated execution.id rate).passRate = some rate := by
  rw [RuleExecution.rated, if_pos rfl]

theorem rated_of_ne {id : Uuid} {rate : Rat} {execution : RuleExecution Uuid}
    (other : execution.id ≠ id) : execution.rated id rate = execution :=
  if_neg other

def Executions.rate (executions : Executions Uuid) (id : Uuid) (rate : Rat) : Executions Uuid where
  rows := executions.rows.map (·.rated id rate)
  unique := by
    rw [List.map_map]
    have same : (fun execution : RuleExecution Uuid => (execution.rated id rate).id) = (·.id) :=
      funext fun execution => rated_id id rate execution
    exact (congrArg (fun ids => (executions.rows.map ids).Nodup) same).mpr executions.unique

variable {str : Uuid → String} {fixed fixedRoot : Rat → String} {rules : Rows Uuid (DQRule Uuid)}
  {executions : Executions Uuid} {groups : SetOrder Uuid} {newest : NewestExecution Uuid}
  {workspaceId ruleId id : Uuid} {cutoff now periodDays : Int} {rate lower : Rat}
  {latest : RuleExecution Uuid} {anomaly : Anomaly Uuid}

omit [DecidableEq Uuid] in
theorem Executions.eq_of_id {first second : RuleExecution Uuid} (left : first ∈ executions.rows)
    (right : second ∈ executions.rows) (same : first.id = second.id) : first = second :=
  List.inj_on_of_nodup_map executions.unique left right same

/-! ## Reports -/

/-- The executions of a rule that its statistics are taken over. -/
def periodOf (rules : Rows Uuid (DQRule Uuid)) (executions : Executions Uuid) (workspaceId : Uuid)
    (cutoff : Int) (ruleId : Uuid) : List (RuleExecution Uuid) :=
  (executions.rows.filter (inPeriod rules workspaceId cutoff)).filter (·.ruleId = ruleId)

def ratesOf (group : List (RuleExecution Uuid)) : List Rat := group.filterMap (·.passRate)

theorem passRateAnomaly_eq_some_iff {stat : RuleStats Uuid} :
    passRateAnomaly str fixed fixedRoot rules executions newest stat = some anomaly ↔
      ∃ variance avgRate latest rate, stat.variance = some variance ∧ stat.avgRate = some avgRate ∧
        variance ≠ 0 ∧ newest.first (completedOf executions stat.ruleId) = some latest ∧
        latest.passRate = some rate ∧
        scoresBelow zScoreThreshold variance (rate - avgRate) = true ∧
        passRateDrop str fixed fixedRoot rules stat.ruleId rate avgRate variance = anomaly := by
  unfold passRateAnomaly
  cases stat.variance with
  | none => simp
  | some variance =>
      cases stat.avgRate with
      | none => simp
      | some avgRate =>
          by_cases level : variance = 0
          · simp [level]
          · cases newest.first (completedOf executions stat.ruleId) with
            | none => simp [level]
            | some latest =>
                cases held : latest.passRate with
                | none => simp [level, held]
                | some rate =>
                    by_cases below : scoresBelow zScoreThreshold variance (rate - avgRate) = true
                    · simp [level, held, below]
                    · simp [level, held, below]

theorem mem_detect_iff :
    (anomaly ∈ detectPassRateAnomalies str fixed fixedRoot rules executions groups newest workspaceId
        now periodDays ∧ anomaly.rule = some ruleId) ↔
      minExecutions ≤ (periodOf rules executions workspaceId (cutoffOf now periodDays)
        ruleId).length ∧
      passRateAnomaly str fixed fixedRoot rules executions newest
        (ruleStats (executions.rows.filter (inPeriod rules workspaceId (cutoffOf now periodDays))) ruleId) = some anomaly := by
  simp only [detectPassRateAnomalies, List.mem_filterMap, List.mem_filter, List.mem_map,
    decide_eq_true_eq]
  constructor
  · rintro ⟨⟨stat, ⟨⟨other, -, rfl⟩, enough⟩, reported⟩, isRule⟩
    obtain ⟨variance, avgRate, -, rate, -, -, -, -, -, -, isDrop⟩ :=
      passRateAnomaly_eq_some_iff.mp reported
    rw [← isDrop] at isRule
    obtain rfl : other = ruleId := Option.some.inj isRule
    exact ⟨enough, reported⟩
  · rintro ⟨enough, reported⟩
    obtain ⟨variance, avgRate, -, rate, -, -, -, -, -, -, isDrop⟩ :=
      passRateAnomaly_eq_some_iff.mp reported
    refine ⟨⟨_, ⟨⟨ruleId, ?_, rfl⟩, enough⟩, reported⟩, by rw [← isDrop]; rfl⟩
    obtain ⟨execution, member⟩ := List.exists_mem_of_length_pos (lt_of_lt_of_le (by decide) enough)
    obtain ⟨selected, ofRule⟩ := List.mem_filter.mp member
    rw [SetOrder.mem_toList, List.mem_dedup]
    exact List.mem_map.mpr ⟨execution, selected, by simpa using ofRule⟩

/-! ## One execution with another pass rate -/

theorem filter_rated {keep : RuleExecution Uuid → Bool}
    (steady : ∀ execution, keep (execution.rated id rate) = keep execution)
    (rows : List (RuleExecution Uuid)) :
    (rows.map (·.rated id rate)).filter keep = (rows.filter keep).map (·.rated id rate) := by
  rw [List.filter_map]
  congr 1
  exact List.filter_congr fun execution _ => steady execution

private theorem inPeriod_rated {execution : RuleExecution Uuid} :
    inPeriod rules workspaceId cutoff (execution.rated id rate) =
      inPeriod rules workspaceId cutoff execution := by
  unfold RuleExecution.rated
  split <;> rfl

theorem periodOf_rate :
    periodOf rules (executions.rate id rate) workspaceId cutoff ruleId =
      (periodOf rules executions workspaceId cutoff ruleId).map (·.rated id rate) := by
  unfold periodOf Executions.rate
  rw [filter_rated fun execution => inPeriod_rated, filter_rated fun execution => by simp]

private theorem completedOf_rate :
    completedOf (executions.rate id rate) ruleId =
      (completedOf executions ruleId).map (·.rated id rate) := by
  unfold completedOf Executions.rate
  exact filter_rated (fun execution => by simp) _

theorem first_rate (isLatest : newest.first (completedOf executions ruleId) = some latest) :
    newest.first (completedOf (executions.rate id rate) ruleId) = some (latest.rated id rate) := by
  rw [completedOf_rate, newest.steady _ _ fun row => ⟨rated_id id rate row, rated_startedAt id rate row⟩,
    isLatest]
  rfl

private theorem mem_rows_of_mem_periodOf {execution : RuleExecution Uuid}
    (member : execution ∈ periodOf rules executions workspaceId cutoff ruleId) :
    execution ∈ executions.rows :=
  (List.mem_filter.mp (List.mem_filter.mp member).1).1

private theorem periodOf_rate_of_outside (listed : latest ∈ executions.rows)
    (outside : latest ∉ periodOf rules executions workspaceId cutoff ruleId) :
    periodOf rules (executions.rate latest.id rate) workspaceId cutoff ruleId =
      periodOf rules executions workspaceId cutoff ruleId := by
  rw [periodOf_rate]
  refine (List.map_congr_left fun execution member => ?_).trans (List.map_id _)
  refine rated_of_ne fun same => outside ?_
  rw [← executions.eq_of_id (mem_rows_of_mem_periodOf member) listed same]
  exact member

theorem periodOf_split (inside : latest ∈ periodOf rules executions workspaceId cutoff ruleId) :
    ∃ others, (periodOf rules executions workspaceId cutoff ruleId).Perm (latest :: others) ∧
      (∀ other ∈ others, other.id ≠ latest.id) ∧
      ∀ rate, (periodOf rules (executions.rate latest.id rate) workspaceId cutoff ruleId).Perm
        (latest.rated latest.id rate :: others) := by
  obtain ⟨front, back, split⟩ := List.append_of_mem inside
  have unique : ((periodOf rules executions workspaceId cutoff ruleId).map (·.id)).Nodup :=
    executions.unique.sublist
      (List.Sublist.map _ (List.filter_sublist.trans List.filter_sublist))
  have perm : (periodOf rules executions workspaceId cutoff ruleId).Perm
      (latest :: (front ++ back)) := by
    rw [split]
    exact List.perm_middle
  have distinct := List.nodup_cons.mp ((perm.map (·.id)).nodup_iff.mp unique)
  have differs : ∀ other ∈ front ++ back, other.id ≠ latest.id := by
    intro other member same
    exact distinct.1 (List.mem_map.mpr ⟨other, member, same⟩)
  refine ⟨front ++ back, perm, differs, fun rate => ?_⟩
  have kept : (front ++ back).map (·.rated latest.id rate) = front ++ back :=
    (List.map_congr_left fun other member => rated_of_ne (differs other member)).trans (List.map_id _)
  rw [periodOf_rate]
  refine (perm.map _).trans ?_
  rw [List.map_cons, kept]

/-! ## Lower is worse -/

theorem average_eq {rates : List Rat} (given : rates ≠ []) :
    average rates = some (sampleMean rates) :=
  if_neg given

theorem ne_nil_of_sampleVariance {rates : List Rat} {variance : Rat}
    (measured : sampleVariance rates = some variance) : rates ≠ [] := by
  rintro rfl
  cases measured

private theorem severityOrder_le {variance difference changed lowered : Rat}
    (passes : ∀ threshold, LiesBelow threshold variance difference →
      LiesBelow threshold changed lowered) :
    severityOrder (severityOf changed lowered) ≤ severityOrder (severityOf variance difference) := by
  have scores (threshold : Rat) (below : scoresBelow threshold variance difference = true) :
      scoresBelow threshold changed lowered = true := by
    rw [scoresBelow, decide_eq_true_eq] at below ⊢
    exact passes threshold below
  have critical : severityOrder "Critical" = 0 := rfl
  have high : severityOrder "High" = 1 := rfl
  have medium : severityOrder "Medium" = 2 := rfl
  unfold severityOf
  by_cases isCritical : scoresBelow 3 variance difference = true
  · rw [if_pos isCritical, if_pos (scores 3 isCritical)]
  · rw [if_neg isCritical]
    by_cases isHigh : scoresBelow (5 / 2) variance difference = true
    · rw [if_pos isHigh, if_pos (scores (5 / 2) isHigh), high]
      split
      · exact critical.trans_le (Nat.zero_le 1)
      · exact high.le
    · rw [if_neg isHigh, medium]
      split
      · exact critical.trans_le (Nat.zero_le 2)
      · split
        · exact high.trans_le (by decide)
        · exact medium.le

theorem ratesOf_rate (listed : latest ∈ executions.rows) (held : latest.passRate = some rate) :
    ratesOf (periodOf rules (executions.rate latest.id lower) workspaceId cutoff ruleId) =
        ratesOf (periodOf rules executions workspaceId cutoff ruleId) ∨
      ∃ rest, (ratesOf (periodOf rules executions workspaceId cutoff ruleId)).Perm (rate :: rest) ∧
        (ratesOf (periodOf rules (executions.rate latest.id lower) workspaceId cutoff ruleId)).Perm
          (lower :: rest) := by
  by_cases inside : latest ∈ periodOf rules executions workspaceId cutoff ruleId
  · obtain ⟨others, before, -, after⟩ := periodOf_split inside
    refine .inr ⟨ratesOf others, ?_, ?_⟩
    · refine (before.filterMap _).trans ?_
      rw [List.filterMap_cons_some held]
      exact .rfl
    · refine ((after lower).filterMap _).trans ?_
      rw [List.filterMap_cons_some rated_self]
      exact .rfl
  · exact .inl (congrArg ratesOf (periodOf_rate_of_outside listed inside))

theorem lowered_reported (isLatest : newest.first (completedOf executions ruleId) = some latest)
    (held : latest.passRate = some rate) (lowered : lower ≤ rate) (otherGroups : SetOrder Uuid)
    (reported : anomaly ∈ detectPassRateAnomalies str fixed fixedRoot rules executions groups newest
      workspaceId now periodDays) (isRule : anomaly.rule = some ruleId) :
    ∃ worse ∈ detectPassRateAnomalies str fixed fixedRoot rules (executions.rate latest.id lower)
        otherGroups newest workspaceId now periodDays,
      worse.rule = some ruleId ∧ severityOrder worse.severity ≤ severityOrder anomaly.severity := by
  obtain ⟨enough, isReport⟩ := mem_detect_iff.mp ⟨reported, isRule⟩
  obtain ⟨variance, avgRate, found, foundRate, measured, averaged, varies, isFound, foundHeld, below,
    rfl⟩ := passRateAnomaly_eq_some_iff.mp isReport
  obtain rfl : latest = found := Option.some.inj (isLatest.symm.trans isFound)
  obtain rfl : rate = foundRate := Option.some.inj (held.symm.trans foundHeld)
  have sample := average_eq (ne_nil_of_sampleVariance measured)
  obtain rfl : sampleMean _ = avgRate := Option.some.inj (sample.symm.trans averaged)
  have score := below
  rw [scoresBelow, decide_eq_true_eq] at score
  have listed : latest ∈ executions.rows := (List.mem_filter.mp (newest.mem _ _ isLatest)).1
  obtain ⟨changed, changedMeasured, changedVaries, passes⟩ :=
    exists_variance_lowered lowered (ratesOf_rate listed held) measured varies (sub_neg.mp score.1)
  have changedAverage := average_eq (ne_nil_of_sampleVariance changedMeasured)
  refine ⟨_, (mem_detect_iff.mpr ⟨?_, passRateAnomaly_eq_some_iff.mpr ⟨changed, _, _, lower,
    changedMeasured, changedAverage, changedVaries, first_rate isLatest, rated_self, ?_, rfl⟩⟩).1,
    rfl, severityOrder_le passes⟩
  · rw [periodOf_rate, List.length_map]
    exact enough
  · rw [scoresBelow, decide_eq_true_eq]
    exact passes zScoreThreshold score

/-! ## A drop after level pass rates -/

/-- The newest completed execution of a rule lies in the period, later than all others, which have
one pass rate there. -/
structure LevelHistory (rules : Rows Uuid (DQRule Uuid)) (executions : Executions Uuid)
    (workspaceId : Uuid) (cutoff : Int) (ruleId : Uuid) (latest : RuleExecution Uuid) (level : Rat) :
    Prop where
  inside : latest ∈ periodOf rules executions workspaceId cutoff ruleId
  later : ∃ start, latest.startedAt = some start ∧ ∀ other ∈ completedOf executions ruleId,
    other.id ≠ latest.id → ∃ earlier, other.startedAt = some earlier ∧ earlier < start
  level : ∀ other ∈ periodOf rules executions workspaceId cutoff ruleId, other.id ≠ latest.id →
    other.passRate = some level

variable {level : Rat}

private theorem mem_completedOf_of_mem_periodOf
    (inside : latest ∈ periodOf rules executions workspaceId cutoff ruleId) :
    latest ∈ completedOf executions ruleId := by
  obtain ⟨selected, ofRule⟩ := List.mem_filter.mp inside
  obtain ⟨listed, counted⟩ := List.mem_filter.mp selected
  refine List.mem_filter.mpr ⟨listed, ?_⟩
  have completed := (Bool.and_eq_true_iff.mp (Bool.and_eq_true_iff.mp counted).1).2
  exact Bool.and_eq_true_iff.mpr ⟨ofRule, completed⟩

theorem LevelHistory.first (history : LevelHistory rules executions workspaceId cutoff ruleId latest
    level) : newest.first (completedOf executions ruleId) = some latest := by
  have listed := mem_completedOf_of_mem_periodOf history.inside
  obtain ⟨found, isFound⟩ := Option.isSome_iff_exists.mp
    (newest.found _ (List.ne_nil_of_mem listed))
  have member := newest.mem _ _ isFound
  by_cases same : found.id = latest.id
  · rw [isFound, executions.eq_of_id (List.mem_filter.mp member).1 (List.mem_filter.mp listed).1 same]
  · -- A row that is not the latest one began before it and cannot be the newest.
    obtain ⟨start, began, others⟩ := history.later
    obtain ⟨earlier, foundBegan, before⟩ := others found member same
    have ahead := newest.newest _ _ isFound latest listed
    simp [RuleExecution.precedes, began, foundBegan] at ahead
    omega

theorem LevelHistory.rates (history : LevelHistory rules executions workspaceId cutoff ruleId latest
    level) {count : Nat}
    (counted : (periodOf rules executions workspaceId cutoff ruleId).length = count + 1) :
    (ratesOf (periodOf rules (executions.rate latest.id lower) workspaceId cutoff ruleId)).Perm
      (lower :: List.replicate count level) := by
  obtain ⟨others, before, differs, after⟩ := periodOf_split history.inside
  rw [before.length_eq, List.length_cons, Nat.succ.injEq] at counted
  refine ((after lower).filterMap _).trans ?_
  rw [List.filterMap_cons_some rated_self, ← counted]
  refine .cons _ (.of_eq (List.eq_replicate_iff.mpr ⟨?_, ?_⟩))
  · have kept : ∀ other ∈ others, other.passRate = some level := fun other member =>
      history.level other (before.mem_iff.mpr (List.mem_cons_of_mem _ member)) (differs other member)
    have mapped : others.filterMap (·.passRate) = others.map fun _ => level :=
      List.filterMap_eq_map_iff_forall_eq_some.mpr kept
    rw [mapped, List.length_map]
  · intro rate member
    obtain ⟨other, listed, held⟩ := List.mem_filterMap.mp member
    rw [history.level other (before.mem_iff.mpr (List.mem_cons_of_mem _ listed))
      (differs other listed)] at held
    exact (Option.some.inj held).symm

def ReportsDrop (str : Uuid → String) (fixed fixedRoot : Rat → String)
    (rules : Rows Uuid (DQRule Uuid)) (executions : Executions Uuid) (groups : SetOrder Uuid)
    (newest : NewestExecution Uuid) (workspaceId : Uuid) (now periodDays : Int) (ruleId : Uuid)
    (latest : RuleExecution Uuid) (lower : Rat) : Prop :=
  ∃ anomaly ∈ detectPassRateAnomalies str fixed fixedRoot rules (executions.rate latest.id lower)
    groups newest workspaceId now periodDays, anomaly.rule = some ruleId

theorem LevelHistory.reportsDrop_iff
    (history : LevelHistory rules executions workspaceId (cutoffOf now periodDays) ruleId latest level)
    (enough : minExecutions ≤
      (periodOf rules executions workspaceId (cutoffOf now periodDays) ruleId).length)
    (less : lower < level) :
    ReportsDrop str fixed fixedRoot rules executions groups newest workspaceId now periodDays ruleId
        latest lower ↔
      6 ≤ (periodOf rules executions workspaceId (cutoffOf now periodDays) ruleId).length := by
  have several : 3 ≤ (periodOf rules executions workspaceId (cutoffOf now periodDays) ruleId).length :=
    enough
  obtain ⟨count, counted⟩ := Nat.exists_eq_add_of_le' (Nat.one_le_of_lt several)
  have others : 0 < count := by omega
  have given : List.replicate count level ≠ [] := by
    simp only [ne_eq, List.replicate_eq_nil_iff]
    omega
  have rates := @LevelHistory.rates _ _ _ _ _ _ _ lower _ _ history _ counted
  have measured := (sampleVariance_perm rates).trans (sampleVariance_cons given)
  have averaged := (average_eq (ne_nil_of_sampleVariance measured)).trans
    (congrArg some (sampleMean_perm rates))
  have isFirst := @first_rate _ _ _ newest ruleId latest.id lower latest history.first
  have sixth : 5 ≤ count ↔
      6 ≤ (periodOf rules executions workspaceId (cutoffOf now periodDays) ruleId).length := by omega
  refine Iff.trans ?_ ((liesBelow_replicate_iff others less).trans sixth)
  constructor
  · rintro ⟨anomaly, reported, isRule⟩
    obtain ⟨-, isReport⟩ := mem_detect_iff.mp ⟨reported, isRule⟩
    obtain ⟨variance, avgRate, found, rate, isVariance, isAverage, -, isFound, held, below, -⟩ :=
      passRateAnomaly_eq_some_iff.mp isReport
    obtain rfl := Option.some.inj (measured.symm.trans isVariance)
    obtain rfl := Option.some.inj (averaged.symm.trans isAverage)
    obtain rfl := Option.some.inj (isFirst.symm.trans isFound)
    obtain rfl := Option.some.inj (rated_self.symm.trans held)
    rw [scoresBelow, decide_eq_true_eq] at below
    exact below
  · intro below
    refine ⟨_, mem_detect_iff.mpr ⟨?_, passRateAnomaly_eq_some_iff.mpr ⟨_, _, _, lower, measured,
      averaged, ?_, isFirst, rated_self, ?_, rfl⟩⟩⟩
    · rw [periodOf_rate, List.length_map]
      exact enough
    · refine (variance_cons_pos given ?_).ne'
      rw [sampleMean_replicate others]
      exact less
    · rw [scoresBelow, decide_eq_true_eq]
      exact below

/-- Lowering the newest pass rate of a rule never takes a report back and never softens it. -/
def LowerIsWorse (str : Uuid → String) (fixed fixedRoot : Rat → String)
    (rules : Rows Uuid (DQRule Uuid)) : Prop :=
  ∀ (executions : Executions Uuid) (newest : NewestExecution Uuid) (groups otherGroups : SetOrder Uuid)
    (workspaceId ruleId : Uuid) (now periodDays : Int) (latest : RuleExecution Uuid) (rate lower : Rat),
    newest.first (completedOf executions ruleId) = some latest → latest.passRate = some rate →
    lower ≤ rate →
    ∀ anomaly ∈ detectPassRateAnomalies str fixed fixedRoot rules executions groups newest workspaceId
        now periodDays, anomaly.rule = some ruleId →
      ∃ worse ∈ detectPassRateAnomalies str fixed fixedRoot rules (executions.rate latest.id lower)
          otherGroups newest workspaceId now periodDays,
        worse.rule = some ruleId ∧ severityOrder worse.severity ≤ severityOrder anomaly.severity

/-- After level pass rates a drop can be reported exactly from six executions on, and then every drop
is; and lower is worse for every history. -/
theorem passRate_drop_iff
    (history : LevelHistory rules executions workspaceId (cutoffOf now periodDays) ruleId latest level)
    (enough : minExecutions ≤
      (periodOf rules executions workspaceId (cutoffOf now periodDays) ruleId).length) :
    ((∃ lower < level, ReportsDrop str fixed fixedRoot rules executions groups newest workspaceId now
        periodDays ruleId latest lower) ↔
      6 ≤ (periodOf rules executions workspaceId (cutoffOf now periodDays) ruleId).length) ∧
    (6 ≤ (periodOf rules executions workspaceId (cutoffOf now periodDays) ruleId).length →
      ∀ lower < level, ReportsDrop str fixed fixedRoot rules executions groups newest workspaceId now
        periodDays ruleId latest lower) ∧
    LowerIsWorse str fixed fixedRoot rules := by
  refine ⟨⟨?_, fun six => ?_⟩, fun six lower less => ?_, ?_⟩
  · rintro ⟨lower, less, reports⟩
    exact (history.reportsDrop_iff enough less).mp reports
  · exact ⟨level - 1, sub_one_lt level, (history.reportsDrop_iff enough (sub_one_lt level)).mpr six⟩
  · exact (history.reportsDrop_iff enough less).mpr six
  · intro executions newest groups otherGroups workspaceId ruleId now periodDays latest rate lower
      isLatest held lowered anomaly reported isRule
    exact lowered_reported isLatest held lowered otherGroups reported isRule

/-! ## Three executions and six -/

/-- Executions of one rule, one after the other, that all passed. -/
private def passingExecutions (count : Nat) : Executions Nat where
  rows := (List.range count).map fun turn => ⟨turn, 7, .completed, some turn, some 100⟩
  unique := by
    rw [List.map_map]
    exact (congrArg List.Nodup (List.map_id (List.range count))).mpr List.nodup_range

private def monitoredRules : Rows Nat (DQRule Nat) :=
  AList.insert 7 ⟨1, "Order totals", some "orders", ["total"]⟩ ∅

private theorem periodOf_passing (count : Nat) :
    periodOf monitoredRules (passingExecutions count) 1 (cutoffOf 0 0) 7 =
      (passingExecutions count).rows := by
  unfold periodOf
  rw [List.filter_filter]
  refine List.filter_eq_self.mpr fun execution member => ?_
  obtain ⟨turn, -, rfl⟩ := List.mem_map.mp member
  have began : (0 : Int) ≤ turn := Int.natCast_nonneg turn
  have monitored : (monitoredRules.lookup 7).any (·.workspaceId = 1) = true := by decide
  simp [inPeriod, monitored, cutoffOf, began]

private theorem passing_history (count : Nat) :
    LevelHistory monitoredRules (passingExecutions (count + 1)) 1 (cutoffOf 0 0) 7
      ⟨count, 7, .completed, some count, some 100⟩ 100 where
  inside := by
    rw [periodOf_passing]
    exact List.mem_map.mpr ⟨count, List.self_mem_range_succ, rfl⟩
  later := by
    refine ⟨count, rfl, fun other member differs => ?_⟩
    obtain ⟨turn, within, rfl⟩ := List.mem_map.mp (List.mem_filter.mp member).1
    have before := List.mem_range.mp within
    have distinct : turn ≠ count := differs
    exact ⟨turn, rfl, by omega⟩
  level := by
    intro other member _
    rw [periodOf_passing] at member
    obtain ⟨turn, -, rfl⟩ := List.mem_map.mp member
    rfl

/-- Five passing executions and a drop of one point are reported. -/
theorem sixth_drop_reported :
    ReportsDrop (fun _ => "") (fun _ => "") (fun _ => "") monitoredRules
      (passingExecutions 6) SetOrder.insertion (NewestExecution.last Nat) 1 0 0 7
      ⟨5, 7, .completed, some 5, some 100⟩ 99 :=
  (passRate_drop_iff (passing_history 5) (by rw [periodOf_passing]; decide)).2.1
    (by rw [periodOf_passing]; decide) 99 (by norm_num)

/-- With the minimum of three executions no drop is reported, not even one to nothing. -/
theorem third_drop_unreported :
    minExecutions ≤ (periodOf monitoredRules (passingExecutions 3) 1 (cutoffOf 0 0) 7).length ∧
      ¬∃ lower < (100 : Rat), ReportsDrop (fun _ => "") (fun _ => "") (fun _ => "") monitoredRules
        (passingExecutions 3) SetOrder.insertion (NewestExecution.last Nat) 1 0 0 7
        ⟨2, 7, .completed, some 2, some 100⟩ lower := by
  have enough : minExecutions ≤
      (periodOf monitoredRules (passingExecutions 3) 1 (cutoffOf 0 0) 7).length := by
    rw [periodOf_passing]
    decide
  refine ⟨enough, ?_⟩
  rintro ⟨lower, less, reports⟩
  have six := ((passing_history 2).reportsDrop_iff enough less).mp reports
  rw [periodOf_passing] at six
  exact absurd six (by decide)

end CogniDQ.Anomalies
