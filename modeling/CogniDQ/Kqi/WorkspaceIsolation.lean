import CogniDQ.Reporting.MetricsService
import Mathlib.Logic.Nontrivial.Basic
import Std.Data.String.ToNat

/-!
# Governance maturity

The shares of a workspace's data sources whose metadata are filled in, of its datasets that have
thresholds, and of its checks that have service levels.
-/

set_option autoImplicit false

namespace CogniDQ.Kqi

open CogniDQ.Database CogniDQ.Python CogniDQ.Rules

structure DataSource (Uuid : Type) where
  workspaceId : Uuid
  connectionConfig : Value

/-- The tables that the indicators of quality read. -/
structure Store (Uuid : Type) where
  dataSources : List (DataSource Uuid)
  reporting : Reporting.Tables Uuid
  incidents : List (Incident Uuid)
  definitions : List (SLADefinition Uuid)
  distinctSeverities :
    (definitions.map fun row => (row.workspaceId, row.severityLevel)).Nodup

def Store.sla {Uuid : Type} (store : Store Uuid) : Tables Uuid where
  incidents := store.incidents
  definitions := store.definitions
  cache := store.reporting.cache

structure GovernanceMaturity where
  datasetsWithOwnerPct : Rat
  datasetsWithCriticalityPct : Rat
  datasetsWithDomainPct : Rat
  datasetsWithThresholdsPct : Rat
  checksWithSlaPct : Rat
  hasData : Bool

/-- `has_key(field)` and `jsonb_extract_path_text(config, field) != ''`. -/
def hasField (config : Value) (field : String) : Bool :=
  match config with
  | .dict entries =>
    match entries.lookup field with
    | none => false
    -- The text of a JSON null is null.
    | some .none => false
    | some (.str text) => text != ""
    | some _ => true
  | _ => false

section Service

variable {Uuid : Type} [DecidableEq Uuid] (runtime : Runtime) (store : Store Uuid)
  (workspaceId : Uuid) (now : Int)

def percent (part whole : Nat) : Rat :=
  runtime.nearest (runtime.nearest (part / whole) * 100)

def totalDatasets : Nat := store.dataSources.countP fun source => source.workspaceId = workspaceId

def pctWithField (field : String) : Rat :=
  round1 runtime (percent runtime
    (store.dataSources.countP fun source =>
      source.workspaceId = workspaceId && hasField source.connectionConfig field)
    (totalDatasets store workspaceId))

/-- `COUNT(DISTINCT coalesce(dataset, table_name, source_name))` of the checks with a threshold. -/
def datasetsWithThresholds : Nat :=
  ((Reporting.checkResults store.reporting workspaceId none none).filterMap fun result =>
    (result.resultData.filter (·.hasThreshold)).bind fun data =>
      data.dataset.or (data.tableName.or data.sourceName)).dedup.length

def totalChecks : Nat :=
  ((Reporting.checkResults store.reporting workspaceId none none).filterMap fun result =>
    (Reporting.flowOf store.reporting workspaceId result).map fun flow =>
      (flow, result.nodeId)).dedup.length

def checksWithSlaPct (slaCount checks : Nat) : Rat :=
  if 0 < slaCount then round1 runtime (min (percent runtime slaCount (max checks 1)) 100) else 0

def computeGovernanceMaturity : GovernanceMaturity :=
  if totalDatasets store workspaceId = 0 then ⟨0, 0, 0, 0, 0, false⟩
  else {
    datasetsWithOwnerPct := pctWithField runtime store workspaceId "owner"
    datasetsWithCriticalityPct := pctWithField runtime store workspaceId "criticality"
    datasetsWithDomainPct := pctWithField runtime store workspaceId "domain"
    datasetsWithThresholdsPct := round1 runtime (min (percent runtime
      (datasetsWithThresholds store workspaceId) (totalDatasets store workspaceId)) 100)
    -- The definitions of all workspaces are counted.
    checksWithSlaPct :=
      checksWithSlaPct runtime store.definitions.length (totalChecks store workspaceId)
    hasData := true }

def cachedGovernance (useCache : Bool) : Option (CacheEntry Uuid) :=
  (getCached store.sla workspaceId now "kqi_coverage_governance").filter fun _ => useCache

def getGovernanceMaturity (useCache : Bool) : Reported GovernanceMaturity :=
  match cachedGovernance store workspaceId now useCache with
  | some entry => .cached entry.metricValue
  | none => .computed (computeGovernanceMaturity runtime store workspaceId)

end Service

end CogniDQ.Kqi

/-!
## Indicators of one workspace

Which indicators depend on the rows of a workspace only. All do but one: the share of checks with
service levels counts the definitions of every workspace.
-/

namespace CogniDQ.Kqi

open CogniDQ.Database CogniDQ.Python CogniDQ.Rules

section Rows

variable {Row : Type} {own : Row → Bool} {rows others : List Row}

private theorem filter_own (kind : Row → Bool) :
    rows.filter (fun row => own row && kind row) = (rows.filter own).filter kind := by
  rw [List.filter_filter]
  exact List.filter_congr fun row _ => Bool.and_comm _ _

theorem countP_own (kind : Row → Bool) :
    rows.countP (fun row => own row && kind row) = (rows.filter own).countP kind := by
  rw [List.countP_filter]
  exact List.countP_congr fun row _ => by rw [Bool.and_comm]

theorem find?_own (same : rows.filter own = others.filter own) (kind : Row → Bool) :
    rows.find? (fun row => own row && kind row) = others.find? fun row => own row && kind row := by
  have filtered : ∀ listed : List Row,
      listed.find? (fun row => own row && kind row) = (listed.filter own).find? kind := by
    intro listed
    rw [List.find?_filter]
    simp
  rw [filtered, filtered, same]

end Rows

section Agreement

variable {Uuid : Type} [DecidableEq Uuid]

def flowsOf (tables : Reporting.Tables Uuid) (workspaceId : Uuid) :
    Rows Uuid (Reporting.DQFlow Uuid) :=
  tables.flows.keep fun _ row => row.workspaceId = workspaceId

def executionsOf (tables : Reporting.Tables Uuid) (workspaceId : Uuid) :
    Rows Uuid (Reporting.FlowExecution Uuid) :=
  tables.executions.keep fun _ row =>
    (tables.flows.lookup row.flowId).any fun flow => flow.workspaceId = workspaceId

def resultsOf (tables : Reporting.Tables Uuid) (workspaceId : Uuid) :
    List (Reporting.FlowNodeResult Uuid) :=
  tables.results.filter fun result => (Reporting.flowOf tables workspaceId result).isSome

/-- Two states have the same rows of a workspace; those of other workspaces may differ. -/
structure AgreeOn (workspaceId : Uuid) (store other : Store Uuid) : Prop where
  dataSources : store.dataSources.filter (·.workspaceId = workspaceId) =
    other.dataSources.filter (·.workspaceId = workspaceId)
  flows : flowsOf store.reporting workspaceId = flowsOf other.reporting workspaceId
  executions : executionsOf store.reporting workspaceId = executionsOf other.reporting workspaceId
  results : resultsOf store.reporting workspaceId = resultsOf other.reporting workspaceId
  controlSources : store.reporting.controlSources.filter (·.workspaceId = workspaceId) =
    other.reporting.controlSources.filter (·.workspaceId = workspaceId)
  cache : store.reporting.cache.filter (·.workspaceId = workspaceId) =
    other.reporting.cache.filter (·.workspaceId = workspaceId)
  incidents : store.incidents.filter (·.workspaceId = workspaceId) =
    other.incidents.filter (·.workspaceId = workspaceId)
  definitions : store.definitions.filter (·.workspaceId = workspaceId) =
    other.definitions.filter (·.workspaceId = workspaceId)

private theorem flowOf_eq (tables : Reporting.Tables Uuid) (workspaceId : Uuid)
    (result : Reporting.FlowNodeResult Uuid) :
    Reporting.flowOf tables workspaceId result =
      ((executionsOf tables workspaceId).lookup result.executionId).map (·.flowId) := by
  unfold Reporting.flowOf executionsOf
  rw [Rows.lookup_keep]
  cases tables.executions.lookup result.executionId with
  | none => rfl
  | some execution =>
    simp only [Option.map_some, Option.filter_some]
    split <;> rfl

private theorem checkResults_eq (tables : Reporting.Tables Uuid) (workspaceId : Uuid)
    (flowId executionId : Option Uuid) :
    Reporting.checkResults tables workspaceId flowId executionId =
      (resultsOf tables workspaceId).filter fun result =>
        Reporting.inScope tables workspaceId flowId executionId result &&
          result.nodeType = .check := by
  unfold Reporting.checkResults resultsOf
  rw [List.filter_filter]
  refine List.filter_congr fun result _ => ?_
  unfold Reporting.inScope
  cases Reporting.flowOf tables workspaceId result <;> simp

namespace AgreeOn

variable {workspaceId : Uuid} {store other : Store Uuid}

theorem flowOf (agree : AgreeOn workspaceId store other) :
    Reporting.flowOf store.reporting workspaceId = Reporting.flowOf other.reporting workspaceId := by
  funext result
  rw [flowOf_eq, flowOf_eq, agree.executions]

theorem checkResults (agree : AgreeOn workspaceId store other) (flowId executionId : Option Uuid) :
    Reporting.checkResults store.reporting workspaceId flowId executionId =
      Reporting.checkResults other.reporting workspaceId flowId executionId := by
  rw [checkResults_eq, checkResults_eq, agree.results]
  unfold Reporting.inScope
  rw [agree.flowOf]

theorem finishedChecks (agree : AgreeOn workspaceId store other)
    (flowId executionId : Option Uuid) :
    Reporting.finishedChecks store.reporting workspaceId flowId executionId =
      Reporting.finishedChecks other.reporting workspaceId flowId executionId := by
  unfold Reporting.finishedChecks
  rw [agree.checkResults]

private theorem totalFlows (agree : AgreeOn workspaceId store other) (flowId : Option Uuid) :
    Reporting.totalFlows store.reporting workspaceId flowId =
      Reporting.totalFlows other.reporting workspaceId flowId := by
  have entries := congrArg AList.entries agree.flows
  unfold Reporting.totalFlows
  rw [countP_own, countP_own]
  exact congrArg _ entries

private theorem overview (agree : AgreeOn workspaceId store other) (round2 : Rat → Rat)
    (flowId executionId : Option Uuid) (now : Int) (useCache : Bool) :
    Reporting.getOverviewMetrics round2 store.reporting workspaceId flowId executionId now useCache =
      Reporting.getOverviewMetrics round2 other.reporting workspaceId flowId executionId now
        useCache := by
  have computed : Reporting.computeOverview round2 store.reporting workspaceId flowId executionId
        now =
      Reporting.computeOverview round2 other.reporting workspaceId flowId executionId now := by
    unfold Reporting.computeOverview Reporting.calculateDqScore
    rw [agree.finishedChecks, agree.totalFlows, countP_own, countP_own, agree.controlSources]
  unfold Reporting.getOverviewMetrics
  simp only [Bool.and_assoc]
  rw [find?_own agree.cache, computed]

private theorem categories (agree : AgreeOn workspaceId store other) (round2 : Rat → Rat)
    (flowId : Option Uuid) (now : Int) (period : String) :
    Reporting.getCategoryBreakdown round2 store.reporting workspaceId flowId now period =
      Reporting.getCategoryBreakdown round2 other.reporting workspaceId flowId now period := by
  have metrics : Reporting.categoryMetrics round2 store.reporting workspaceId flowId now period =
      Reporting.categoryMetrics round2 other.reporting workspaceId flowId now period := by
    funext category
    unfold Reporting.categoryMetrics Reporting.categoryChecks Reporting.categoryRules
    rw [agree.finishedChecks, agree.checkResults, agree.flowOf]
  unfold Reporting.getCategoryBreakdown
  rw [metrics]

theorem cached (agree : AgreeOn workspaceId store other) (now : Int) (metricType : String) :
    getCached store.sla workspaceId now metricType =
      getCached other.sla workspaceId now metricType := by
  unfold getCached Store.sla
  simp only [Bool.and_assoc]
  exact find?_own agree.cache _

private theorem metrics (agree : AgreeOn workspaceId store other) (runtime : Runtime) (now : Int)
    (periodDays : Int) (useCache : Bool) :
    getMetrics runtime store.sla workspaceId now periodDays useCache =
      getMetrics runtime other.sla workspaceId now periodDays useCache := by
  have slaMap : getSlaMap runtime store.sla workspaceId = getSlaMap runtime other.sla workspaceId := by
    unfold getSlaMap Store.sla
    rw [agree.definitions]
  have incidents : openedSince store.sla workspaceId = openedSince other.sla workspaceId := by
    funext since
    unfold openedSince Store.sla
    rw [filter_own, filter_own, agree.incidents]
  unfold getMetrics
  rw [slaMap, incidents]
  simp only [agree.cached]

end AgreeOn

end Agreement

section Percentages

/-- What a rounding to floats does: it keeps the order, and the integers that floats represent. -/
structure RoundsToFloats (nearest : Rat → Rat) : Prop where
  monotone : ∀ ⦃smaller larger : Rat⦄, smaller ≤ larger → nearest smaller ≤ nearest larger
  natural : ∀ count : Nat, count ≤ 2 ^ 53 → nearest count = count

variable {runtime : Runtime} (floats : RoundsToFloats runtime.nearest)

include floats in
theorem round1_mono {smaller larger : Rat} (le : smaller ≤ larger) :
    round1 runtime smaller ≤ round1 runtime larger := by
  unfold round1
  refine floats.monotone ?_
  have rounded : (roundHalfEven (smaller * 10) : Rat) ≤ roundHalfEven (larger * 10) :=
    Int.cast_le.mpr (roundHalfEven_mono (mul_le_mul_of_nonneg_right le (by decide)))
  exact div_le_div_of_nonneg_right rounded (by decide)

include floats in
theorem round1_hundred : round1 runtime 100 = 100 := by
  unfold round1
  have exact : ((roundHalfEven (100 * 10) : Rat) / 10) = (100 : Nat) := by
    have thousand : roundHalfEven (100 * 10) = 1000 := by decide +kernel
    rw [thousand]
    norm_num
  rw [exact, floats.natural 100 (by decide)]
  rfl

include floats in
theorem percent_mono {part more whole : Nat} (le : part ≤ more) :
    percent runtime part whole ≤ percent runtime more whole := by
  unfold percent
  refine floats.monotone (mul_le_mul_of_nonneg_right (floats.monotone ?_) (by decide))
  exact div_le_div_of_nonneg_right (Nat.cast_le.mpr le) (Nat.cast_nonneg _)

include floats in
theorem percent_self {whole : Nat} (positive : 0 < whole) : percent runtime whole whole = 100 := by
  unfold percent
  have one := floats.natural 1 (by decide)
  have hundred := floats.natural 100 (by decide)
  rw [div_self (Nat.cast_ne_zero.mpr positive.ne'), ← Nat.cast_one, one, Nat.cast_one, one_mul]
  exact hundred

include floats in
private theorem checksWithSlaPct_of_enough {count checks : Nat} (enough : max checks 1 ≤ count) :
    checksWithSlaPct runtime count checks = 100 := by
  have some : 0 < max checks 1 := (Nat.lt_of_lt_of_le Nat.zero_lt_one (Nat.le_max_right _ _))
  unfold checksWithSlaPct
  rw [if_pos (some.trans_le enough), min_eq_right, round1_hundred floats]
  rw [← percent_self floats some]
  exact percent_mono floats enough

include floats in
theorem checksWithSlaPct_mono {count more checks : Nat} (some : 0 < count) (le : count ≤ more) :
    checksWithSlaPct runtime count checks ≤ checksWithSlaPct runtime more checks := by
  unfold checksWithSlaPct
  rw [if_pos some, if_pos (some.trans_le le)]
  exact round1_mono floats (min_le_min_right _ (percent_mono floats le))

include floats in
theorem checksWithSlaPct_le {count checks : Nat} : checksWithSlaPct runtime count checks ≤ 100 := by
  unfold checksWithSlaPct
  split
  · exact (round1_mono floats (min_le_right _ _)).trans_eq (round1_hundred floats)
  · decide

end Percentages

section Isolation

variable {Uuid : Type} [DecidableEq Uuid]

/-- The indicators of a workspace are the same in two states. -/
structure SameIndicators (runtime : Runtime) (workspaceId : Uuid) (now : Int) (useCache : Bool)
    (store other : Store Uuid) : Prop where
  governance : getGovernanceMaturity runtime store workspaceId now useCache =
    getGovernanceMaturity runtime other workspaceId now useCache
  metrics : ∀ periodDays, getMetrics runtime store.sla workspaceId now periodDays useCache =
    getMetrics runtime other.sla workspaceId now periodDays useCache
  overview : ∀ round2 flowId executionId,
    Reporting.getOverviewMetrics round2 store.reporting workspaceId flowId executionId now useCache =
      Reporting.getOverviewMetrics round2 other.reporting workspaceId flowId executionId now useCache
  categories : ∀ round2 flowId period,
    Reporting.getCategoryBreakdown round2 store.reporting workspaceId flowId now period =
      Reporting.getCategoryBreakdown round2 other.reporting workspaceId flowId now period

def ownDefinitions (store : Store Uuid) (workspaceId : Uuid) : List (SLADefinition Uuid) :=
  store.definitions.filter (·.workspaceId = workspaceId)

variable {runtime : Runtime} {store other : Store Uuid} {workspaceId elsewhere : Uuid} {now : Int}
  {useCache : Bool}

theorem AgreeOn.totalDatasets (agree : AgreeOn workspaceId store other) :
    totalDatasets store workspaceId = totalDatasets other workspaceId := by
  unfold Kqi.totalDatasets
  rw [List.countP_eq_length_filter, List.countP_eq_length_filter, agree.dataSources]

theorem AgreeOn.totalChecks (agree : AgreeOn workspaceId store other) :
    totalChecks store workspaceId = totalChecks other workspaceId := by
  unfold Kqi.totalChecks
  rw [agree.checkResults, agree.flowOf]

private theorem AgreeOn.computed (agree : AgreeOn workspaceId store other)
    (sameShare : Kqi.totalDatasets store workspaceId ≠ 0 →
      checksWithSlaPct runtime store.definitions.length (Kqi.totalChecks store workspaceId) =
        checksWithSlaPct runtime other.definitions.length (Kqi.totalChecks store workspaceId)) :
    computeGovernanceMaturity runtime store workspaceId =
      computeGovernanceMaturity runtime other workspaceId := by
  have fields : pctWithField runtime store workspaceId = pctWithField runtime other workspaceId := by
    funext field
    unfold pctWithField
    rw [countP_own, countP_own, agree.dataSources, agree.totalDatasets]
  have thresholds : datasetsWithThresholds store workspaceId =
      datasetsWithThresholds other workspaceId := by
    unfold datasetsWithThresholds
    rw [agree.checkResults]
  unfold computeGovernanceMaturity
  by_cases empty : Kqi.totalDatasets store workspaceId = 0
  · rw [if_pos empty, if_pos (agree.totalDatasets ▸ empty)]
  · rw [if_neg empty, if_neg (agree.totalDatasets ▸ empty), fields, thresholds, sameShare empty,
      agree.totalDatasets, agree.totalChecks]

private theorem AgreeOn.cachedGovernance (agree : AgreeOn workspaceId store other) :
    cachedGovernance store workspaceId now useCache =
      cachedGovernance other workspaceId now useCache := by
  unfold Kqi.cachedGovernance
  rw [agree.cached]

def foreignDefinitions (elsewhere : Uuid) (count : Nat) : List (SLADefinition Uuid) :=
  (List.range count).map fun number => ⟨elsewhere, Nat.repr number, 1⟩

theorem distinct_foreignDefinitions (foreign : elsewhere ≠ workspaceId) (count : Nat) :
    ((ownDefinitions store workspaceId ++ foreignDefinitions elsewhere count).map
      fun row => (row.workspaceId, row.severityLevel)).Nodup := by
  rw [List.map_append, List.nodup_append']
  refine ⟨store.distinctSeverities.sublist (List.filter_sublist.map _), ?_, ?_⟩
  · unfold foreignDefinitions
    rw [List.map_map]
    refine List.nodup_range.map fun first second same => ?_
    exact Nat.repr_injective (Prod.mk.inj same).2
  · intro key ofOwn ofForeign
    obtain ⟨row, owned, rfl⟩ := List.mem_map.mp ofOwn
    obtain ⟨other, listed, same⟩ := List.mem_map.mp ofForeign
    obtain ⟨number, -, rfl⟩ := List.mem_map.mp listed
    have owner := of_decide_eq_true (List.mem_filter.mp owned).2
    exact foreign ((Prod.mk.inj same).1.trans owner)

/-- The state with the definitions of the workspace and some of another one. -/
def withForeign (store : Store Uuid) (foreign : elsewhere ≠ workspaceId) (count : Nat) :
    Store Uuid :=
  { store with
    definitions := ownDefinitions store workspaceId ++ foreignDefinitions elsewhere count
    distinctSeverities := distinct_foreignDefinitions foreign count }

variable (store) in
private theorem agreeOn_withForeign (foreign : elsewhere ≠ workspaceId) (count : Nat) :
    AgreeOn workspaceId store (withForeign store foreign count) where
  dataSources := rfl
  flows := rfl
  executions := rfl
  results := rfl
  controlSources := rfl
  cache := rfl
  incidents := rfl
  definitions := by
    have none : (foreignDefinitions elsewhere count).filter (·.workspaceId = workspaceId) = [] := by
      rw [List.filter_eq_nil_iff]
      intro row listed owned
      obtain ⟨number, -, rfl⟩ := List.mem_map.mp listed
      exact foreign (of_decide_eq_true owned)
    unfold withForeign ownDefinitions
    dsimp only
    rw [List.filter_append, none, List.append_nil, List.filter_filter]
    simp

private theorem length_withForeign (foreign : elsewhere ≠ workspaceId) (count : Nat) :
    (withForeign store foreign count).definitions.length =
      (ownDefinitions store workspaceId).length + count := by
  unfold withForeign foreignDefinitions
  simp

/-- The indicators of a workspace do not depend on the rows of others if and only if the governance
maturity is cached, the workspace has no data source, or its own definitions already fill the share
of checks with service levels. -/
theorem isolated_iff [Nontrivial Uuid] (floats : RoundsToFloats runtime.nearest) :
    (∀ other, AgreeOn workspaceId store other →
        SameIndicators runtime workspaceId now useCache store other) ↔
      (cachedGovernance store workspaceId now useCache).isSome ∨
        totalDatasets store workspaceId = 0 ∨
        (0 < (ownDefinitions store workspaceId).length ∧
          checksWithSlaPct runtime (ownDefinitions store workspaceId).length
            (totalChecks store workspaceId) = 100) := by
  constructor
  · intro isolated
    obtain ⟨elsewhere, foreign⟩ := exists_ne workspaceId
    by_contra leaks
    obtain ⟨uncached, some, notFull⟩ := not_or.mp leaks |>.imp_right not_or.mp
    have share : ∀ count,
        checksWithSlaPct runtime store.definitions.length (totalChecks store workspaceId) =
          checksWithSlaPct runtime ((ownDefinitions store workspaceId).length + count)
            (totalChecks store workspaceId) := by
      intro count
      have agree := agreeOn_withForeign store foreign count
      have same := (isolated _ agree).governance
      unfold getGovernanceMaturity at same
      rw [← agree.cachedGovernance, Option.not_isSome_iff_eq_none.mp uncached] at same
      have computed := Reported.computed.inj same
      unfold computeGovernanceMaturity at computed
      rw [if_neg some, if_neg (agree.totalDatasets ▸ some)] at computed
      have shares := congrArg (·.checksWithSlaPct) computed
      dsimp only at shares
      rw [shares, length_withForeign, ← agree.totalChecks]
    have full : checksWithSlaPct runtime
        ((ownDefinitions store workspaceId).length + max (totalChecks store workspaceId) 1)
        (totalChecks store workspaceId) = 100 :=
      checksWithSlaPct_of_enough floats (Nat.le_add_left _ _)
    have own : checksWithSlaPct runtime (ownDefinitions store workspaceId).length
        (totalChecks store workspaceId) = 100 := ((share 0).symm.trans (share _)).trans full
    refine notFull ⟨Nat.pos_of_ne_zero fun none => ?_, own⟩
    rw [none] at own
    have zero : checksWithSlaPct runtime 0 (totalChecks store workspaceId) = 0 := if_neg (by decide)
    exact absurd (zero.symm.trans own) (by decide)
  · intro condition other agree
    refine ⟨?_, fun periodDays => agree.metrics runtime now periodDays useCache,
      fun round2 flowId executionId => agree.overview round2 flowId executionId now useCache,
      fun round2 flowId period => agree.categories round2 flowId now period⟩
    unfold getGovernanceMaturity
    rw [← agree.cachedGovernance]
    rcases condition with cached | empty | ⟨some, full⟩
    · obtain ⟨entry, found⟩ := Option.isSome_iff_exists.mp cached
      rw [found]
    · rw [agree.computed fun nonempty => absurd empty nonempty]
    · have filled : ∀ definitions : List (SLADefinition Uuid),
          definitions.filter (·.workspaceId = workspaceId) = ownDefinitions store workspaceId →
            checksWithSlaPct runtime definitions.length (totalChecks store workspaceId) = 100 := by
        intro definitions own
        refine (checksWithSlaPct_le floats).antisymm ?_
        rw [← full, ← own]
        exact checksWithSlaPct_mono floats (own ▸ some) (List.length_filter_le _ _)
      rw [agree.computed fun _ => ?_]
      exact (filled _ rfl).trans (filled _ agree.definitions.symm).symm

end Isolation

section Examples

private def noReports : Reporting.Tables Nat := ⟨∅, ∅, [], [], []⟩

private def oneSource (definitions : List (SLADefinition Nat))
    (distinct : (definitions.map fun row => (row.workspaceId, row.severityLevel)).Nodup) :
    Store Nat where
  dataSources := [⟨0, .dict [("owner", .str "data")]⟩]
  reporting := noReports
  incidents := []
  definitions := definitions
  distinctSeverities := distinct

private theorem ascii_floats : RoundsToFloats Runtime.ascii.nearest where
  monotone _ _ le := le
  natural _ _ := rfl

/-- A workspace without checks that has a definition of its own. -/
theorem own_definition_isolates :
    RoundsToFloats Runtime.ascii.nearest ∧
      ∀ other, AgreeOn 0 (oneSource [⟨0, "critical", 4⟩] (by decide)) other →
        SameIndicators .ascii 0 0 true (oneSource [⟨0, "critical", 4⟩] (by decide)) other := by
  refine ⟨ascii_floats, (isolated_iff ascii_floats).mpr (.inr (.inr ⟨by decide, ?_⟩))⟩
  decide +kernel

/-- A definition of another workspace makes the share of checks with service levels full. -/
theorem foreign_definition_leaks :
    AgreeOn 0 (oneSource [] (by decide)) (oneSource [⟨1, "critical", 4⟩] (by decide)) ∧
      getGovernanceMaturity .ascii (oneSource [] (by decide)) 0 0 true ≠
        getGovernanceMaturity .ascii (oneSource [⟨1, "critical", 4⟩] (by decide)) 0 0 true := by
  constructor
  · exact ⟨rfl, rfl, rfl, rfl, rfl, rfl, rfl, rfl⟩
  · intro same
    have shares := congrArg (·.checksWithSlaPct) (Reported.computed.inj same)
    exact absurd shares (by decide +kernel)

end Examples

end CogniDQ.Kqi
