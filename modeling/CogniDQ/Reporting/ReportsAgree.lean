import CogniDQ.Reporting.MetricsService

/-!
# The totals of the reports

Each report counts the checks that it selects; they agree where none is left out and every check
has a rate.
-/

set_option autoImplicit false

namespace CogniDQ.Reporting

open CogniDQ.Database CogniDQ.Flow CogniDQ.Kqi

section Rates

variable {Uuid : Type} {results : List (FlowNodeResult Uuid)}

private theorem FlowNodeResult.passRate_nonneg {result : FlowNodeResult Uuid} {rate : Rat}
    (found : result.passRate = some rate) : 0 ≤ rate := by
  obtain ⟨share, -, rfl⟩ := Option.map_eq_some_iff.mp found
  exact share.coe_nonneg

private theorem passRateOf_nonneg (result : FlowNodeResult Uuid) : 0 ≤ passRateOf result := by
  unfold passRateOf
  cases found : result.passRate with
  | none => exact le_rfl
  | some rate => exact result.passRate_nonneg found

private theorem sum_passRates :
    (results.filterMap (·.passRate)).sum = (results.map passRateOf).sum := by
  induction results with
  | nil => rfl
  | cons result rest ih =>
    unfold passRateOf at ih ⊢
    cases found : result.passRate with
    | none =>
      rw [List.filterMap_cons_none found, List.map_cons, List.sum_cons, ih, found]
      exact (zero_add _).symm
    | some rate =>
      rw [List.filterMap_cons_some found, List.map_cons, List.sum_cons, List.sum_cons, ih, found]
      rfl

theorem avgPassRate_eq :
    avgPassRate results =
      (results.map passRateOf).sum / (results.filterMap (·.passRate)).length := by
  unfold avgPassRate average
  rw [← sum_passRates]
  split
  · next none =>
    rw [none]
    simp
  · rfl

private theorem avgPassRate_of_rated (rated : ∀ result ∈ results, result.passRate.isSome) :
    avgPassRate results = (results.map passRateOf).sum / results.length := by
  have all : (results.filterMap (·.passRate)).length = results.length := by
    induction results with
    | nil => rfl
    | cons result rest ih =>
      obtain ⟨rate, found⟩ := Option.isSome_iff_exists.mp (rated result List.mem_cons_self)
      rw [List.filterMap_cons_some found, List.length_cons, List.length_cons,
        ih fun later listed => rated later (List.mem_cons_of_mem _ listed)]
  rw [avgPassRate_eq, all]

private theorem sum_passRateOf_eq_zero_iff :
    (results.map passRateOf).sum = 0 ↔ ∀ result ∈ results, passRateOf result = 0 := by
  induction results with
  | nil => simp
  | cons result rest ih =>
    have nonneg : 0 ≤ (rest.map passRateOf).sum := by
      refine List.sum_nonneg fun rate listed => ?_
      obtain ⟨other, -, rfl⟩ := List.mem_map.mp listed
      exact passRateOf_nonneg other
    rw [List.map_cons, List.sum_cons, add_eq_zero_iff_of_nonneg (passRateOf_nonneg result) nonneg,
      ih, List.forall_mem_cons]

/-- The average over the rates that are there is the one over all results only if none is missing,
or all are zero. -/
theorem avgPassRate_eq_mean_iff :
    avgPassRate results = (results.map passRateOf).sum / results.length ↔
      (∀ result ∈ results, result.passRate.isSome) ∨
        ∀ result ∈ results, passRateOf result = 0 := by
  constructor
  · intro same
    by_cases zero : (results.map passRateOf).sum = 0
    · exact .inr (sum_passRateOf_eq_zero_iff.mp zero)
    · left
      have lengths : (results.filterMap (·.passRate)).length = results.length := by
        rw [avgPassRate_eq, div_eq_mul_inv, div_eq_mul_inv] at same
        have inverses := mul_left_cancel₀ zero same
        exact Nat.cast_injective (inv_injective inverses)
      intro result listed
      by_contra missing
      have shorter : (results.filterMap (·.passRate)).length < results.length := by
        rw [List.length_filterMap_lt_length_iff_exists]
        exact ⟨result, listed, by simpa using missing⟩
      exact absurd lengths shorter.ne
  · rintro (rated | zero)
    · exact avgPassRate_of_rated rated
    · rw [avgPassRate_eq, sum_passRateOf_eq_zero_iff.mpr zero, zero_div, zero_div]

end Rates

section Aggregation

variable {Uuid : Type} {results : List (FlowNodeResult Uuid)}

private theorem meanOf_eq (values : List Rat) : meanOf values = values.sum / values.length := by
  unfold meanOf
  split
  · next none => simp [none]
  · rfl

def Counted (data : List CheckTypeData) : Prop :=
  ∀ counters ∈ data, counters.checkCount = counters.passRates.length

theorem Counted.nil : Counted [] := fun _ listed => nomatch listed

private theorem addToCheckType_counted {data : List CheckTypeData} (result : FlowNodeResult Uuid)
    (counted : Counted data) :
    Counted (addToCheckType result data) ∧
      ((addToCheckType result data).map (·.checkCount)).sum = (data.map (·.checkCount)).sum + 1 ∧
      ((addToCheckType result data).map (·.passRates.sum)).sum =
        (data.map (·.passRates.sum)).sum + passRateOf result := by
  induction data with
  | nil =>
    refine ⟨?_, rfl, ?_⟩
    · intro counters listed
      cases List.mem_singleton.mp listed
      rfl
    · simp [addToCheckType, CheckTypeData.add]
  | cons first rest ih =>
    obtain ⟨ofFirst, ofRest⟩ := List.forall_mem_cons.mp counted
    unfold addToCheckType
    split
    · refine ⟨List.forall_mem_cons.mpr ⟨?_, ofRest⟩, ?_, ?_⟩
      · simp [CheckTypeData.add, ofFirst]
      · simp only [List.map_cons, List.sum_cons, CheckTypeData.add]
        omega
      · simp only [List.map_cons, List.sum_cons, CheckTypeData.add, List.sum_append, List.sum_nil,
          add_zero]
        exact add_right_comm _ _ _
    · obtain ⟨countedRest, checks, rates⟩ := ih ofRest
      refine ⟨List.forall_mem_cons.mpr ⟨ofFirst, countedRest⟩, ?_, ?_⟩
      · simp only [List.map_cons, List.sum_cons, checks]
        omega
      · simp only [List.map_cons, List.sum_cons, rates]
        exact (add_assoc _ _ _).symm

variable (results) in
theorem foldl_checkTypes_counted {start : List CheckTypeData} (counted : Counted start) :
    Counted (results.foldl (fun data result => addToCheckType result data) start) ∧
      ((results.foldl (fun data result => addToCheckType result data) start).map
          (·.checkCount)).sum = (start.map (·.checkCount)).sum + results.length ∧
      ((results.foldl (fun data result => addToCheckType result data) start).map
          (·.passRates.sum)).sum =
        (start.map (·.passRates.sum)).sum + (results.map passRateOf).sum := by
  induction results generalizing start with
  | nil => exact ⟨counted, rfl, (add_zero _).symm⟩
  | cons result rest ih =>
    obtain ⟨countedNext, checks, rates⟩ := addToCheckType_counted result counted
    obtain ⟨countedLast, checksLast, ratesLast⟩ := ih countedNext
    refine ⟨countedLast, ?_, ?_⟩
    · rw [List.foldl_cons, checksLast, checks, List.length_cons]
      omega
    · rw [List.foldl_cons, ratesLast, rates, List.map_cons, List.sum_cons, add_assoc]

theorem sum_addToDimension (result : FlowNodeResult Uuid) (dimensions : List DimensionData) :
    ((addToDimension result dimensions).map (·.dimension)) = dimensions.map (·.dimension) ∧
      ((addToDimension result dimensions).map (·.checks.length)).sum =
        (dimensions.map (·.checks.length)).sum +
          (dimensions.map (·.dimension)).count (dimensionOf (checkTypeOf result)) := by
  unfold addToDimension
  induction dimensions with
  | nil => exact ⟨rfl, rfl⟩
  | cons first rest ih =>
    obtain ⟨names, checks⟩ := ih
    simp only [List.map_cons, List.sum_cons, List.count_cons, names, checks]
    split
    · next same =>
      refine ⟨by simp [DimensionData.add], ?_⟩
      simp only [DimensionData.add, List.length_append, List.length_singleton, same, beq_self_eq_true,
        if_true]
      omega
    · next other =>
      refine ⟨rfl, ?_⟩
      rw [if_neg (by simpa using other)]
      omega

private theorem count_dimensionOf (checkType : String) :
    (emptyDimensions.map (·.dimension)).count (dimensionOf checkType) = 1 := by
  unfold dimensionOf dimensionMap
  split <;> rfl

variable (results) in
private theorem foldl_dimensions {start : List DimensionData}
    (names : start.map (·.dimension) = emptyDimensions.map (·.dimension)) :
    ((results.foldl (fun data result => addToDimension result data) start).map
      (·.checks.length)).sum = (start.map (·.checks.length)).sum + results.length := by
  induction results generalizing start with
  | nil => rfl
  | cons result rest ih =>
    obtain ⟨kept, added⟩ := sum_addToDimension result start
    rw [List.foldl_cons, ih (kept.trans names), added, names, count_dimensionOf, List.length_cons]
    omega

end Aggregation

end CogniDQ.Reporting

/-!
## When the reports agree

The overview, the categories and the dimensional breakdown count the same checks if and only if
none ended with a warning and each is of a category; and their means are the same if and only if,
besides, every check has a rate or none has a positive one.
-/

namespace CogniDQ.Reporting

open CogniDQ.Database CogniDQ.Flow CogniDQ.Kqi

section Agreement

variable {Uuid : Type} [DecidableEq Uuid] (round2 : Rat → Rat) (tables : Tables Uuid)
  (workspaceId : Uuid) (flowId : Option Uuid) (now : Int) (period : String)

def executedChecks : List (FlowNodeResult Uuid) :=
  (checkResults tables workspaceId flowId none).filter fun result =>
    result.isFinished || result.status = .warning

def categoryMean : Rat :=
  weightedMean ((getCategoryBreakdown round2 tables workspaceId flowId now period).categories.map
    fun metrics => (metrics.totalExecutions, metrics.passRate))

def checkTypeMean : Rat :=
  weightedMean ((getDimensionalBreakdown round2 tables workspaceId flowId none).byCheckType.map
    fun metrics => (metrics.checkCount, metrics.avgPassRate))

/-- However the reports round, each counts every executed check, and their means differ by no more
than the rounding of two numbers. -/
def ReportsAgree : Prop :=
  ∀ (round2 : Rat → Rat) (tolerance : Rat), (∀ value, |round2 value - value| ≤ tolerance) →
    ∃ overview, getOverviewMetrics round2 tables workspaceId flowId none now false =
        .computed overview ∧
      overview.totalExecutions = (executedChecks tables workspaceId flowId).length ∧
      ((getCategoryBreakdown round2 tables workspaceId flowId now period).categories.map
        (·.totalExecutions)).sum = (executedChecks tables workspaceId flowId).length ∧
      ((getDimensionalBreakdown round2 tables workspaceId flowId none).byCheckType.map
        (·.checkCount)).sum = (executedChecks tables workspaceId flowId).length ∧
      ((getDimensionalBreakdown round2 tables workspaceId flowId none).byDimension.map
        (·.checkCount)).sum = (executedChecks tables workspaceId flowId).length ∧
      |categoryMean round2 tables workspaceId flowId now period - overview.averagePassRate| ≤
        2 * tolerance ∧
      |checkTypeMean round2 tables workspaceId flowId - overview.averagePassRate| ≤ 2 * tolerance

variable {round2 tables workspaceId flowId now period}

theorem finishedChecks_eq_filter :
    finishedChecks tables workspaceId flowId none =
      (executedChecks tables workspaceId flowId).filter (·.isFinished) := by
  unfold finishedChecks executedChecks
  rw [List.filter_filter]
  refine List.filter_congr fun result _ => ?_
  cases result.isFinished <;> rfl

private theorem finishedChecks_length_iff :
    (finishedChecks tables workspaceId flowId none).length =
        (executedChecks tables workspaceId flowId).length ↔
      ∀ result ∈ executedChecks tables workspaceId flowId, result.status ≠ .warning := by
  rw [finishedChecks_eq_filter, List.length_filter_eq_length_iff]
  refine forall₂_congr fun result listed => ?_
  have executed := (List.mem_filter.mp listed).2
  unfold FlowNodeResult.isFinished at executed ⊢
  cases status : result.status <;> simp_all

section Categories

private theorem categoryChecks_eq
    (whole : ∀ result ∈ finishedChecks tables workspaceId flowId none,
      (getDateRange now period).1 ≤ result.createdAt ∧
        result.createdAt ≤ (getDateRange now period).2) (category : String) :
    categoryChecks tables workspaceId flowId now period category =
      (finishedChecks tables workspaceId flowId none).filter fun result =>
        decide (result.checkType = some category) := by
  unfold categoryChecks
  refine List.filter_congr fun result listed => ?_
  rw [decide_eq_true (whole result listed).1, decide_eq_true (whole result listed).2, Bool.and_self,
    Bool.and_true]

variable (tables workspaceId flowId now period) in
theorem category_entries (round2 : Rat → Rat) :
    (getCategoryBreakdown round2 tables workspaceId flowId now period).categories.map
        (fun metrics => (metrics.totalExecutions, metrics.passRate)) =
      (dqCategories.map fun category =>
        ((categoryChecks tables workspaceId flowId now period category).length,
          round2 (avgPassRate (categoryChecks tables workspaceId flowId now period category)))).filter
        fun entry => 0 < entry.1 := by
  unfold getCategoryBreakdown
  dsimp only
  rw [List.filter_map, List.filter_map, List.map_map]
  rfl

def isCategorised (result : FlowNodeResult Uuid) : Bool :=
  inGroups FlowNodeResult.checkType dqCategories result

omit [DecidableEq Uuid] in
private theorem isCategorised_iff {result : FlowNodeResult Uuid} :
    isCategorised result = true ↔ ∃ category ∈ dqCategories, result.checkType = some category := by
  unfold isCategorised inGroups
  cases result.checkType with
  | none => simp
  | some checkType => simp

variable (whole : ∀ result ∈ finishedChecks tables workspaceId flowId none,
  (getDateRange now period).1 ≤ result.createdAt ∧ result.createdAt ≤ (getDateRange now period).2)

include whole in
theorem sum_over_categories {M : Type} [AddCommMonoid M] (weight : FlowNodeResult Uuid → M) :
    (dqCategories.map fun category =>
        ((categoryChecks tables workspaceId flowId now period category).map weight).sum).sum =
      (((finishedChecks tables workspaceId flowId none).filter isCategorised).map weight).sum := by
  simp only [categoryChecks_eq whole]
  exact sum_groups (by decide)

include whole in
theorem length_over_categories :
    (dqCategories.map fun category =>
        (categoryChecks tables workspaceId flowId now period category).length).sum =
      ((finishedChecks tables workspaceId flowId none).filter isCategorised).length := by
  have counted := sum_over_categories whole fun _ => 1
  simpa using counted

include whole in
private theorem sum_totalExecutions (round2 : Rat → Rat) :
    ((getCategoryBreakdown round2 tables workspaceId flowId now period).categories.map
        (·.totalExecutions)).sum =
      ((finishedChecks tables workspaceId flowId none).filter isCategorised).length := by
  have entries := congrArg (List.map (·.1))
    (category_entries tables workspaceId flowId now period round2)
  rw [List.map_map] at entries
  rw [← length_over_categories whole]
  refine (congrArg List.sum entries).trans ((sums_filter_weights _).2.trans ?_)
  rw [List.map_map]
  rfl

include whole in
theorem categoryMean_near {tolerance : Rat} (near : ∀ value, |round2 value - value| ≤ tolerance)
    (categorised : ∀ result ∈ finishedChecks tables workspaceId flowId none,
      isCategorised result = true)
    (rates : (∀ result ∈ finishedChecks tables workspaceId flowId none, result.passRate.isSome) ∨
      ∀ result ∈ finishedChecks tables workspaceId flowId none, passRateOf result = 0) :
    |categoryMean round2 tables workspaceId flowId now period -
        avgPassRate (finishedChecks tables workspaceId flowId none)| ≤ tolerance := by
  let ofCategory := categoryChecks tables workspaceId flowId now period
  have finished : ∀ category, ∀ result ∈ ofCategory category,
      result ∈ finishedChecks tables workspaceId flowId none :=
    fun _ _ listed => List.mem_of_mem_filter listed
  have averages : ∀ category, avgPassRate (ofCategory category) =
      ((ofCategory category).map passRateOf).sum / (ofCategory category).length := by
    intro category
    refine avgPassRate_eq_mean_iff.mpr ?_
    rcases rates with rated | zero
    · exact .inl fun result listed => rated result (finished category result listed)
    · exact .inr fun result listed => zero result (finished category result listed)
  have exact : weightedMean (dqCategories.map fun category =>
      ((ofCategory category).length, avgPassRate (ofCategory category))) =
        avgPassRate (finishedChecks tables workspaceId flowId none) := by
    simp only [averages]
    rw [weightedMean_of_groups, sum_over_categories whole, length_over_categories whole,
      List.filter_eq_self.mpr categorised, avgPassRate_eq_mean_iff.mpr rates]
    intro category _ none
    rw [List.length_eq_zero_iff.mp none]
    rfl
  unfold categoryMean
  rw [category_entries, weightedMean_filter, ← exact]
  have moved := weightedMean_near near (dqCategories.map fun category =>
    ((ofCategory category).length, avgPassRate (ofCategory category)))
  rw [List.map_map] at moved
  exact moved

end Categories

variable (tables workspaceId flowId) in
theorem checkTypeMean_near {tolerance : Rat} (near : ∀ value, |round2 value - value| ≤ tolerance) :
    |checkTypeMean round2 tables workspaceId flowId -
        ((finishedChecks tables workspaceId flowId none).map passRateOf).sum /
          (finishedChecks tables workspaceId flowId none).length| ≤ tolerance := by
  obtain ⟨counted, checks, rates⟩ := foldl_checkTypes_counted
    (finishedChecks tables workspaceId flowId none) Counted.nil
  let data := (finishedChecks tables workspaceId flowId none).foldl
    (fun data result => addToCheckType result data) []
  have exact : weightedMean (data.map fun counters =>
      (counters.checkCount, counters.passRates.sum / counters.checkCount)) =
        ((finishedChecks tables workspaceId flowId none).map passRateOf).sum /
          (finishedChecks tables workspaceId flowId none).length := by
    rw [weightedMean_of_groups, rates, checks]
    · simp
    · intro counters listed none
      rw [counted counters listed, List.length_eq_zero_iff] at none
      rw [none]
      rfl
  have moved := weightedMean_near near (data.map fun counters =>
    (counters.checkCount, counters.passRates.sum / counters.checkCount))
  rw [List.map_map, exact] at moved
  unfold checkTypeMean getDimensionalBreakdown
  dsimp only
  rw [List.map_map]
  have same : data.map ((fun metrics : CheckTypeMetrics => (metrics.checkCount, metrics.avgPassRate))
      ∘ fun counters => counters.metrics round2) = data.map ((fun entry => (entry.1, round2 entry.2))
        ∘ fun counters => (counters.checkCount, counters.passRates.sum / counters.checkCount)) := by
    refine List.map_congr_left fun counters listed => ?_
    simp only [Function.comp_apply, CheckTypeData.metrics, meanOf_eq, counted counters listed]
  rw [same]
  exact moved

private theorem sum_checkCounts (round2 : Rat → Rat) :
    ((getDimensionalBreakdown round2 tables workspaceId flowId none).byCheckType.map
        (·.checkCount)).sum = (finishedChecks tables workspaceId flowId none).length := by
  obtain ⟨-, checks, -⟩ := foldl_checkTypes_counted
    (finishedChecks tables workspaceId flowId none) Counted.nil
  unfold getDimensionalBreakdown
  dsimp only
  rw [List.map_map]
  exact checks.trans (Nat.zero_add _)

private theorem sum_dimensionCounts (round2 : Rat → Rat) :
    ((getDimensionalBreakdown round2 tables workspaceId flowId none).byDimension.map
        (·.checkCount)).sum = (finishedChecks tables workspaceId flowId none).length := by
  have checks := foldl_dimensions (finishedChecks tables workspaceId flowId none)
    (Eq.refl (emptyDimensions.map (·.dimension)))
  unfold getDimensionalBreakdown
  dsimp only
  rw [List.map_map]
  exact checks.trans (Nat.zero_add _)

private theorem getOverviewMetrics_uncached (round2 : Rat → Rat) :
    getOverviewMetrics round2 tables workspaceId flowId none now false =
      .computed (computeOverview round2 tables workspaceId flowId none now) := by
  unfold getOverviewMetrics
  dsimp only
  cases List.find? _ tables.cache <;> rfl

/-- Over a period that contains all results, the reports agree if and only if no check ended with a
warning, each is of one of the categories, and every check has a rate or none a positive one. -/
theorem reportsAgree_iff
    (whole : ∀ result ∈ finishedChecks tables workspaceId flowId none,
      (getDateRange now period).1 ≤ result.createdAt ∧
        result.createdAt ≤ (getDateRange now period).2) :
    ReportsAgree tables workspaceId flowId now period ↔
      (∀ result ∈ executedChecks tables workspaceId flowId,
        result.status ≠ .warning ∧ ∃ category ∈ dqCategories, result.checkType = some category) ∧
      ((∀ result ∈ executedChecks tables workspaceId flowId, result.passRate.isSome) ∨
        ∀ result ∈ executedChecks tables workspaceId flowId, passRateOf result = 0) := by
  constructor
  · intro agree
    have exactly : ∀ value : Rat, |id value - value| ≤ 0 := fun value => by simp
    obtain ⟨overview, computed, total, categories, -, -, -, typeMean⟩ :=
      agree id 0 exactly
    cases computed.symm.trans (getOverviewMetrics_uncached id)
    have all : finishedChecks tables workspaceId flowId none =
        executedChecks tables workspaceId flowId := by
      refine finishedChecks_eq_filter.trans (List.filter_eq_self.mpr ?_)
      refine List.length_filter_eq_length_iff.mp ?_
      rw [← finishedChecks_eq_filter]
      exact total
    rw [sum_totalExecutions whole, ← all, List.length_filter_eq_length_iff] at categories
    have noWarning := finishedChecks_length_iff.mp total
    rw [← all] at noWarning ⊢
    refine ⟨fun result listed => ⟨noWarning result listed, ?_⟩, avgPassRate_eq_mean_iff.mp ?_⟩
    · exact isCategorised_iff.mp (categories result listed)
    · have near := checkTypeMean_near tables workspaceId flowId exactly
      rw [mul_zero] at typeMean
      have overviewMean := sub_eq_zero.mp (abs_nonpos_iff.mp typeMean)
      exact overviewMean.symm.trans (sub_eq_zero.mp (abs_nonpos_iff.mp near))
  · intro ⟨each, rates⟩ round2 tolerance near
    have all : finishedChecks tables workspaceId flowId none =
        executedChecks tables workspaceId flowId := by
      refine finishedChecks_eq_filter.trans (List.filter_eq_self.mpr ?_)
      refine List.length_filter_eq_length_iff.mp ?_
      rw [← finishedChecks_eq_filter]
      exact finishedChecks_length_iff.mpr fun result listed => (each result listed).1
    rw [← all] at each rates
    have categorised : ∀ result ∈ finishedChecks tables workspaceId flowId none,
        isCategorised result = true :=
      fun result listed => isCategorised_iff.mpr (each result listed).2
    have average := near (avgPassRate (finishedChecks tables workspaceId flowId none))
    rw [abs_sub_comm] at average
    refine ⟨_, getOverviewMetrics_uncached round2, ?_, ?_, ?_, ?_, ?_, ?_⟩
    · exact congrArg List.length all
    · rw [sum_totalExecutions whole, List.filter_eq_self.mpr categorised, all]
    · rw [sum_checkCounts, all]
    · rw [sum_dimensionCounts, all]
    · refine (abs_sub_le _ (avgPassRate (finishedChecks tables workspaceId flowId none)) _).trans ?_
      rw [two_mul]
      exact add_le_add (categoryMean_near whole near categorised rates) average
    · refine (abs_sub_le _ (avgPassRate (finishedChecks tables workspaceId flowId none)) _).trans ?_
      rw [two_mul]
      refine add_le_add ?_ average
      rw [avgPassRate_eq_mean_iff.mpr rates]
      exact checkTypeMean_near tables workspaceId flowId near

end Agreement

section Examples

private def written (checkType : String) (rate : NNRat) : ResultData :=
  ⟨some checkType, some rate, some 100, some 10, some "public.orders", some "orders", none, true⟩

private def check (executionId : Nat) (status : NodeStatus) (checkType : String)
    (rate : NNRat) : FlowNodeResult Nat :=
  ⟨executionId, "check_1", .check, status, some 3, some (written checkType rate), days 20000⟩

private def twoRuns (results : List (FlowNodeResult Nat)) : Tables Nat where
  flows := AList.insert 7 ⟨0⟩ ∅
  executions := AList.insert 1 ⟨7⟩ (AList.insert 2 ⟨7⟩ ∅)
  results := results
  controlSources := []
  cache := []

private def completedChecks : List (FlowNodeResult Nat) :=
  [check 1 .completed "completeness" 90, check 1 .failed "validity" 40,
    check 2 .completed "completeness" 100]

/-- Checks of two runs and of two categories, of which one failed. -/
theorem reportsAgree_completed :
    (∀ result ∈ finishedChecks (twoRuns completedChecks) 0 none none,
      (getDateRange (days 20001) "all").1 ≤ result.createdAt ∧
        result.createdAt ≤ (getDateRange (days 20001) "all").2) ∧
      ReportsAgree (twoRuns completedChecks) 0 none (days 20001) "all" := by
  have whole : ∀ result ∈ finishedChecks (twoRuns completedChecks) 0 none none,
      (getDateRange (days 20001) "all").1 ≤ result.createdAt ∧
        result.createdAt ≤ (getDateRange (days 20001) "all").2 := by
    decide
  refine ⟨whole, (reportsAgree_iff whole).mpr ⟨?_, .inl ?_⟩⟩
  · decide
  · decide

/-- A check that ended with a warning is in no report, and one of conformity in no category. -/
theorem reports_leave_checks_out :
    ¬ReportsAgree (twoRuns [check 1 .warning "completeness" 90]) 0 none (days 20001) "all" ∧
      ¬ReportsAgree (twoRuns [check 1 .completed "conformity" 90]) 0 none (days 20001) "all" := by
  constructor
  · intro agree
    obtain ⟨overview, computed, total, -⟩ := agree id 0 fun value => by simp
    cases computed
    exact absurd total (by decide)
  · intro agree
    obtain ⟨overview, -, -, categories, -⟩ := agree id 0 fun value => by simp
    exact absurd categories (by decide)

end Examples

end CogniDQ.Reporting
