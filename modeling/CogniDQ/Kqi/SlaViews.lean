import CogniDQ.Kqi.IncidentSlaService

/-!
# The views of one period

What the four views count in one period, and when they count the same. An incident that is not
resolved makes all of them raise.
-/

set_option autoImplicit false

namespace CogniDQ.Kqi

open CogniDQ.Database CogniDQ.Python

private theorem mapM_measured {α β γ ε : Type} {items : List α} {step : α → Except ε β}
    (measure : β → γ) {expected : α → γ}
    (steps : ∀ item ∈ items, ∃ result, step item = .ok result ∧ measure result = expected item) :
    ∃ results, items.mapM step = .ok results ∧ results.map measure = items.map expected := by
  induction items with
  | nil => exact ⟨[], rfl, rfl⟩
  | cons item rest ih =>
    obtain ⟨result, stepped, measured⟩ := steps item List.mem_cons_self
    obtain ⟨results, ran, measuredAll⟩ :=
      ih fun later listed => steps later (List.mem_cons_of_mem _ listed)
    refine ⟨result :: results, ?_, ?_⟩
    · rw [List.mapM_cons, stepped, ran]
      rfl
    · rw [List.map_cons, List.map_cons, measured, measuredAll]

private theorem not_ok_of_raises {α σ ε : Type} {items : List α} {step : σ → α → Except ε σ}
    {item : α} (listed : item ∈ items) (raises : ∀ state result, step state item ≠ .ok result)
    (state result : σ) : items.foldlM step state ≠ .ok result := by
  induction items generalizing state with
  | nil => cases listed
  | cons first rest ih =>
    intro ran
    rw [List.foldlM_cons] at ran
    obtain ⟨next, stepped, continued⟩ := bind_eq_ok ran
    rcases List.mem_cons.mp listed with rfl | later
    · exact raises state next stepped
    · exact ih later next continued

section Counting

variable {α : Type} {first second whole : α → Bool} {items : List α}

theorem countP_disjoint (cover : ∀ item, whole item = (first item || second item))
    (disjoint : ∀ item, first item = true → second item = false) :
    items.countP whole = items.countP first + items.countP second := by
  induction items with
  | nil => rfl
  | cons item rest ih =>
    have apart := disjoint item
    rw [List.countP_cons, List.countP_cons, List.countP_cons, ih, cover item]
    cases ofFirst : first item with
    | true =>
      rw [apart ofFirst]
      simp
      omega
    | false =>
      simp
      omega

end Counting

section Elapsed

variable {Uuid : Type} {runtime : Runtime} {now : Int} {slaMap : String → Option Rat}
  {incident : Incident Uuid}

def breaches (runtime : Runtime) (slaMap : String → Option Rat) (incident : Incident Uuid) : Bool :=
  incident.resolvedAt.any fun resolvedAt =>
    decide (targetHours slaMap (severityOf runtime incident) <
      hours runtime (resolvedAt - incident.openedAt))

theorem elapsedHours_of_resolved {resolvedAt : Int} (resolved : incident.resolvedAt = some resolvedAt) :
    elapsedHours runtime now incident = .ok (hours runtime (resolvedAt - incident.openedAt)) := by
  unfold elapsedHours
  rw [resolved]
  rfl

private theorem elapsedHours_of_open (unresolved : incident.resolvedAt = none) (elapsed : Rat) :
    elapsedHours runtime now incident ≠ .ok elapsed := by
  unfold elapsedHours
  rw [unresolved]
  intro computed
  cases computed

theorem breaches_of_resolved {resolvedAt : Int} (resolved : incident.resolvedAt = some resolvedAt) :
    breaches runtime slaMap incident =
      decide (targetHours slaMap (severityOf runtime incident) <
        hours runtime (resolvedAt - incident.openedAt)) := by
  unfold breaches
  rw [resolved]
  rfl

end Elapsed

section Loops

variable {Uuid : Type} {runtime : Runtime} {formats : Formats} {now : Int}
  {slaMap : String → Option Rat} {incidents : List (Incident Uuid)}

def Resolved (incidents : List (Incident Uuid)) : Prop :=
  ∀ incident ∈ incidents, incident.resolvedAt.isSome

theorem Resolved.tail {incident : Incident Uuid} {rest : List (Incident Uuid)}
    (resolved : Resolved (incident :: rest)) : Resolved rest :=
  fun later listed => resolved later (List.mem_cons_of_mem _ listed)

theorem Resolved.head {incident : Incident Uuid} {rest : List (Incident Uuid)}
    (resolved : Resolved (incident :: rest)) : ∃ at_, incident.resolvedAt = some at_ :=
  Option.isSome_iff_exists.mp (resolved incident List.mem_cons_self)

variable (runtime now slaMap) in
private theorem tallyIncidents_of_resolved (resolved : Resolved incidents) :
    ∃ tally, tallyIncidents runtime now slaMap incidents = .ok tally ∧
      tally.breached = incidents.countP (breaches runtime slaMap) ∧
      tally.compliant + tally.breached = incidents.length := by
  have loop (start : Tally) :
      ∃ tally, incidents.foldlM (Tally.add runtime now slaMap) start = .ok tally ∧
        tally.breached = start.breached + incidents.countP (breaches runtime slaMap) ∧
        tally.compliant + tally.breached = start.compliant + start.breached + incidents.length := by
    induction incidents generalizing start with
    | nil => exact ⟨start, rfl, rfl, rfl⟩
    | cons incident rest ih =>
      obtain ⟨at_, isResolved⟩ := resolved.head
      have added : ∃ next, Tally.add runtime now slaMap start incident = .ok next ∧
          next.breached = start.breached + (if breaches runtime slaMap incident then 1 else 0) ∧
          next.compliant + next.breached = start.compliant + start.breached + 1 := by
        unfold Tally.add
        rw [elapsedHours_of_resolved isResolved, breaches_of_resolved isResolved, isResolved]
        by_cases inTime : hours runtime (at_ - incident.openedAt) ≤
            targetHours slaMap (severityOf runtime incident)
        · refine ⟨_, if_pos inTime, ?_, ?_⟩
          · simp [inTime]
          · dsimp only
            omega
        · refine ⟨_, if_neg inTime, ?_, ?_⟩
          · simp [not_le.mp inTime]
          · dsimp only
            omega
      obtain ⟨next, stepped, breached, counted⟩ := added
      obtain ⟨tally, ran, breachedAfter, countedAfter⟩ := ih resolved.tail next
      refine ⟨tally, ?_, ?_, ?_⟩
      · rw [List.foldlM_cons, stepped]
        exact ran
      · rw [List.countP_cons, breachedAfter, breached]
        omega
      · rw [countedAfter, counted, List.length_cons]
        omega
  obtain ⟨tally, ran, breached, counted⟩ := loop .empty
  refine ⟨tally, ran, ?_, ?_⟩
  · rw [breached]
    exact Nat.zero_add _
  · rw [counted]
    exact Nat.zero_add _

private theorem resolved_of_tallyIncidents {tally : Tally}
    (ran : tallyIncidents runtime now slaMap incidents = .ok tally) : Resolved incidents := by
  intro incident listed
  by_contra unresolved
  refine not_ok_of_raises listed (fun state result added => ?_) _ _ ran
  obtain ⟨elapsed, computed, -⟩ := bind_eq_ok added
  exact elapsedHours_of_open (Option.not_isSome_iff_eq_none.mp unresolved) elapsed computed

private theorem sum_increment (name : String) (counts : List (String × Nat)) :
    ((increment name counts).map (·.2)).sum = (counts.map (·.2)).sum + 1 := by
  induction counts with
  | nil => rfl
  | cons entry rest ih =>
    unfold increment
    split
    · simp only [List.map_cons, List.sum_cons]
      omega
    · simp only [List.map_cons, List.sum_cons, ih]
      omega

variable (runtime formats now slaMap) in
private theorem countBreaches_of_resolved (resolved : Resolved incidents) :
    ∃ counts, incidents.foldlM (countBreach runtime formats now slaMap) [] = .ok counts ∧
      (counts.map (·.2)).sum = incidents.countP (breaches runtime slaMap) := by
  have loop (start : List (String × Nat)) :
      ∃ counts, incidents.foldlM (countBreach runtime formats now slaMap) start = .ok counts ∧
        (counts.map (·.2)).sum =
          (start.map (·.2)).sum + incidents.countP (breaches runtime slaMap) := by
    induction incidents generalizing start with
    | nil => exact ⟨start, rfl, rfl⟩
    | cons incident rest ih =>
      obtain ⟨at_, isResolved⟩ := resolved.head
      have counted : ∃ next, countBreach runtime formats now slaMap start incident = .ok next ∧
          (next.map (·.2)).sum =
            (start.map (·.2)).sum + (if breaches runtime slaMap incident then 1 else 0) := by
        unfold countBreach
        rw [elapsedHours_of_resolved isResolved, breaches_of_resolved isResolved]
        by_cases late : targetHours slaMap (severityOf runtime incident) <
            hours runtime (at_ - incident.openedAt)
        · refine ⟨_, if_pos late, ?_⟩
          simp [late, sum_increment]
        · refine ⟨_, if_neg late, ?_⟩
          simp [late]
      obtain ⟨next, stepped, sum⟩ := counted
      obtain ⟨counts, ran, sumAfter⟩ := ih resolved.tail next
      refine ⟨counts, ?_, ?_⟩
      · rw [List.foldlM_cons, stepped]
        exact ran
      · rw [sumAfter, sum, List.countP_cons]
        omega
  obtain ⟨counts, ran, sum⟩ := loop []
  exact ⟨counts, ran, sum.trans (Nat.zero_add _)⟩

variable (runtime now slaMap) in
private theorem countWeeks_of_resolved (resolved : Resolved incidents) :
    ∃ compliant, incidents.foldlM (countWeek runtime now slaMap) (0, 0) =
      .ok (compliant, incidents.countP (breaches runtime slaMap)) := by
  have loop (start : Nat × Nat) :
      ∃ compliant, incidents.foldlM (countWeek runtime now slaMap) start =
        .ok (compliant, start.2 + incidents.countP (breaches runtime slaMap)) := by
    induction incidents generalizing start with
    | nil => exact ⟨start.1, rfl⟩
    | cons incident rest ih =>
      obtain ⟨at_, isResolved⟩ := resolved.head
      have counted : ∃ compliant, countWeek runtime now slaMap start incident =
          .ok (compliant, start.2 + (if breaches runtime slaMap incident then 1 else 0)) := by
        unfold countWeek
        rw [elapsedHours_of_resolved isResolved, breaches_of_resolved isResolved]
        by_cases inTime : hours runtime (at_ - incident.openedAt) ≤
            targetHours slaMap (severityOf runtime incident)
        · refine ⟨start.1 + 1, (if_pos inTime).trans ?_⟩
          simp [not_lt.mpr inTime]
          rfl
        · refine ⟨start.1, (if_neg inTime).trans ?_⟩
          simp [not_le.mp inTime]
          rfl
      obtain ⟨compliant, stepped⟩ := counted
      obtain ⟨compliantAfter, ran⟩ := ih resolved.tail
        (compliant, start.2 + (if breaches runtime slaMap incident then 1 else 0))
      refine ⟨compliantAfter, ?_⟩
      rw [List.foldlM_cons, stepped]
      refine Eq.trans ran ?_
      rw [List.countP_cons]
      congr 2
      omega
  obtain ⟨compliant, ran⟩ := loop (0, 0)
  refine ⟨compliant, ran.trans ?_⟩
  rw [Nat.zero_add]

end Loops

section Windows

variable {Uuid : Type} {kind : Incident Uuid → Bool} {now : Int} {incidents : List (Incident Uuid)}

def openedWithin (kind : Incident Uuid → Bool) (since till : Int) (incident : Incident Uuid) : Bool :=
  kind incident && (decide (since ≤ incident.openedAt) && decide (incident.openedAt < till))

private theorem countP_openedWithin_add {first middle last : Int} (before : first ≤ middle)
    (after : middle ≤ last) :
    incidents.countP (openedWithin kind first last) =
      incidents.countP (openedWithin kind first middle) +
        incidents.countP (openedWithin kind middle last) := by
  refine countP_disjoint (fun incident => ?_) (fun incident earlier => ?_)
  · unfold openedWithin
    cases kind incident
    · rfl
    · rw [Bool.eq_iff_iff]
      simp only [Bool.true_and, Bool.or_eq_true, Bool.and_eq_true, decide_eq_true_eq]
      omega
  · unfold openedWithin at earlier ⊢
    simp only [Bool.and_eq_true, decide_eq_true_eq] at earlier
    have later : ¬middle ≤ incident.openedAt := by omega
    simp [later]

private theorem sum_weeks (weeks : Nat) :
    ((List.range weeks).map fun weeksAgo : Nat =>
        incidents.countP (openedWithin kind (now - days (7 * weeksAgo) - days 7)
          (now - days (7 * weeksAgo)))).sum =
      incidents.countP (openedWithin kind (now - days (7 * weeks)) now) := by
  induction weeks with
  | zero =>
    symm
    rw [List.range_zero, List.map_nil, List.sum_nil, List.countP_eq_zero]
    intro incident _ within
    unfold openedWithin days at within
    simp only [Bool.and_eq_true, decide_eq_true_eq] at within
    omega
  | succ weeks ih =>
    have next : now - days (7 * (weeks + 1 : Nat)) = now - days (7 * weeks) - days 7 := by
      unfold days
      omega
    rw [List.range_succ, List.map_append, List.sum_append, ih, List.map_singleton,
      List.sum_singleton, next, Nat.add_comm]
    refine (countP_openedWithin_add ?_ ?_).symm
    · unfold days
      omega
    · unfold days
      omega

end Windows

section Agreement

variable {Uuid : Type} [DecidableEq Uuid] (runtime : Runtime) (formats : Formats)
  (tables : Tables Uuid) (workspaceId : Uuid) (now : Int) (weeks pageSize : Nat)

def periodIncidents : List (Incident Uuid) := openedSince tables workspaceId (now - days (7 * weeks))

/-- An incident of the workspace breaches the service level that is defined for it. -/
def Breaching : Incident Uuid → Bool := breaches runtime (getSlaMap runtime tables workspaceId)

/-- Without the cache no view raises, and all count the same breaches. Each page of the list is a
query of its own. -/
def ViewsAgree (orders : Nat → NewestFirst Uuid) : Prop :=
  ∃ (tally : Tally) (metrics : SlaMetrics) (bySeverity : Breaches) (weekly : ComplianceTrend)
      (pages : Nat → IncidentList Uuid),
    tallyIncidents runtime now (getSlaMap runtime tables workspaceId)
        (periodIncidents tables workspaceId now weeks) = .ok tally ∧
      getMetrics runtime tables workspaceId now (7 * weeks) false = .ok (.computed metrics) ∧
      getBreachesBySeverity runtime formats tables workspaceId now (7 * weeks) false =
        .ok (.computed bySeverity) ∧
      getComplianceTrend runtime formats tables workspaceId now weeks false =
        .ok (.computed weekly) ∧
      (∀ number, getIncidentsWithSla runtime formats tables workspaceId now (orders number)
        (7 * weeks) (number + 1) pageSize = .ok (pages number)) ∧
      tally.compliant + metrics.breachesCount = metrics.totalIncidents ∧
      metrics.breachesCount = (bySeverity.distribution.map (·.2)).sum ∧
      metrics.breachesCount = (weekly.trend.map (·.breaches)).sum ∧
      ∀ count, metrics.totalIncidents ≤ count * pageSize →
        metrics.breachesCount =
          ((List.range count).map fun number => (pages number).items.countP (·.breached)).sum

variable {runtime formats tables workspaceId now weeks pageSize}

private theorem filter_uncached {α : Type} (found : Option α) :
    (found.filter fun _ => false) = none := by
  cases found <;> rfl

variable (runtime) in
theorem getMetrics_of_resolved (resolved : Resolved (periodIncidents tables workspaceId now weeks)) :
    ∃ tally metrics,
      tallyIncidents runtime now (getSlaMap runtime tables workspaceId)
          (periodIncidents tables workspaceId now weeks) = .ok tally ∧
        getMetrics runtime tables workspaceId now (7 * weeks) false = .ok (.computed metrics) ∧
        metrics.totalIncidents = (periodIncidents tables workspaceId now weeks).length ∧
        metrics.breachesCount = (periodIncidents tables workspaceId now weeks).countP
          (Breaching runtime tables workspaceId) ∧
        tally.compliant + metrics.breachesCount = metrics.totalIncidents := by
  obtain ⟨tally, tallied, breached, counted⟩ := tallyIncidents_of_resolved runtime now
    (getSlaMap runtime tables workspaceId) resolved
  have unfolded : getMetrics runtime tables workspaceId now (7 * weeks) false =
      if (periodIncidents tables workspaceId now weeks).length = 0 then
        .ok (.computed noIncidents)
      else .ok (.computed (tally.metrics runtime
        (periodIncidents tables workspaceId now weeks).length)) := by
    unfold getMetrics
    dsimp only
    rw [filter_uncached]
    dsimp only
    unfold periodIncidents at tallied
    rw [tallied]
    rfl
  by_cases empty : (periodIncidents tables workspaceId now weeks).length = 0
  · have none := List.length_eq_zero_iff.mp empty
    refine ⟨tally, noIncidents, tallied, unfolded.trans (if_pos empty), empty.symm, ?_, ?_⟩
    · rw [none]
      rfl
    · rw [none] at counted
      exact Nat.eq_zero_of_add_eq_zero_right counted
  · exact ⟨tally, _, tallied, unfolded.trans (if_neg empty), rfl, breached,
      (congrArg _ rfl).trans counted⟩

variable (runtime formats) in
private theorem getBreachesBySeverity_of_resolved
    (resolved : Resolved (periodIncidents tables workspaceId now weeks)) :
    ∃ bySeverity,
      getBreachesBySeverity runtime formats tables workspaceId now (7 * weeks) false =
          .ok (.computed bySeverity) ∧
        (bySeverity.distribution.map (·.2)).sum =
          (periodIncidents tables workspaceId now weeks).countP
            (Breaching runtime tables workspaceId) := by
  obtain ⟨counts, counted, sum⟩ := countBreaches_of_resolved runtime formats now
    (getSlaMap runtime tables workspaceId) resolved
  let distribution := counts.mergeSort fun first second => decide (second.2 ≤ first.2)
  refine ⟨⟨distribution, decide (0 < distribution.length)⟩, ?_, ?_⟩
  · unfold getBreachesBySeverity
    dsimp only
    rw [filter_uncached]
    dsimp only
    unfold periodIncidents at counted
    rw [counted]
    rfl
  · refine Eq.trans ?_ sum
    exact ((List.mergeSort_perm counts _).map _).sum_eq

private theorem weekTrend_of_resolved
    (resolved : Resolved (periodIncidents tables workspaceId now weeks)) {weeksAgo : Nat}
    (within : weeksAgo < weeks) :
    ∃ week, weekTrend runtime formats tables workspaceId now
        (getSlaMap runtime tables workspaceId) weeksAgo = .ok week ∧
      week.breaches = (periodIncidents tables workspaceId now weeks).countP
        (openedWithin (Breaching runtime tables workspaceId)
          (now - days (7 * weeksAgo) - days 7) (now - days (7 * weeksAgo))) := by
  let ofWeek := (openedSince tables workspaceId (now - days (7 * weeksAgo) - days 7)).filter
    fun incident => decide (incident.openedAt < now - days (7 * weeksAgo))
  have later : now - days (7 * weeks) ≤ now - days (7 * weeksAgo) - days 7 := by
    unfold days
    omega
  have resolvedWeek : Resolved ofWeek := by
    intro incident listed
    have ofPeriod := List.mem_of_mem_filter listed
    unfold openedSince at ofPeriod
    simp only [List.mem_filter, Bool.and_eq_true, decide_eq_true_eq] at ofPeriod
    refine resolved incident ?_
    unfold periodIncidents openedSince
    simp only [List.mem_filter, Bool.and_eq_true, decide_eq_true_eq]
    exact ⟨ofPeriod.1, ofPeriod.2.1, later.trans ofPeriod.2.2⟩
  obtain ⟨compliant, counted⟩ := countWeeks_of_resolved runtime now
    (getSlaMap runtime tables workspaceId) resolvedWeek
  have ran : ∃ week, weekTrend runtime formats tables workspaceId now
      (getSlaMap runtime tables workspaceId) weeksAgo = .ok week ∧ week.breaches =
        ofWeek.countP (Breaching runtime tables workspaceId) := by
    unfold weekTrend
    dsimp only
    rw [counted]
    exact ⟨_, rfl, rfl⟩
  obtain ⟨week, computed, breached⟩ := ran
  refine ⟨week, computed, breached.trans ?_⟩
  unfold ofWeek periodIncidents openedSince
  rw [List.countP_filter, List.countP_filter, List.countP_filter]
  refine List.countP_congr fun incident _ => ?_
  unfold openedWithin Breaching
  simp only [Bool.and_eq_true, decide_eq_true_eq]
  constructor
  · intro counted
    exact ⟨⟨counted.1.1, counted.2.2, counted.1.2⟩, counted.2.1, later.trans counted.2.2⟩
  · intro counted
    exact ⟨⟨counted.1.1, counted.1.2.2⟩, counted.2.1, counted.1.2.1⟩

variable (runtime formats) in
private theorem getComplianceTrend_of_resolved
    (resolved : Resolved (periodIncidents tables workspaceId now weeks)) :
    ∃ weekly,
      getComplianceTrend runtime formats tables workspaceId now weeks false =
          .ok (.computed weekly) ∧
        (weekly.trend.map (·.breaches)).sum =
          (periodIncidents tables workspaceId now weeks).countP
            (openedWithin (Breaching runtime tables workspaceId) (now - days (7 * weeks)) now) := by
  have steps : ∀ weeksAgo ∈ (List.range weeks).reverse,
      ∃ week, weekTrend runtime formats tables workspaceId now
          (getSlaMap runtime tables workspaceId) weeksAgo = .ok week ∧
        week.breaches = (periodIncidents tables workspaceId now weeks).countP
          (openedWithin (Breaching runtime tables workspaceId)
            (now - days (7 * weeksAgo) - days 7) (now - days (7 * weeksAgo))) :=
    fun weeksAgo listed =>
      weekTrend_of_resolved resolved (List.mem_range.mp (List.mem_reverse.mp listed))
  obtain ⟨trend, ran, counted⟩ := mapM_measured WeekTrend.breaches steps
  refine ⟨⟨trend, trend.any fun week => decide (0 < week.breaches ∨ week.compliance < 100)⟩,
    ?_, ?_⟩
  · unfold getComplianceTrend
    dsimp only
    rw [filter_uncached]
    dsimp only
    rw [ran]
    rfl
  · dsimp only
    rw [counted, List.map_reverse, List.sum_reverse]
    exact sum_weeks weeks

variable (runtime formats pageSize) in
theorem getIncidentsWithSla_of_resolved
    (resolved : Resolved (periodIncidents tables workspaceId now weeks))
    (order : NewestFirst Uuid) (number : Nat) :
    ∃ listed,
      getIncidentsWithSla runtime formats tables workspaceId now order (7 * weeks) (number + 1)
          pageSize = .ok listed ∧
        listed.items.countP (·.breached) =
          (page (order.arrange (periodIncidents tables workspaceId now weeks)) pageSize
            number).countP (Breaching runtime tables workspaceId) := by
  let shown := page (order.arrange (periodIncidents tables workspaceId now weeks)) pageSize number
  have steps : ∀ incident ∈ shown, ∃ listed,
      listIncident runtime formats now (getSlaMap runtime tables workspaceId) incident =
          .ok listed ∧
        listed.breached = Breaching runtime tables workspaceId incident := by
    intro incident inPage
    have inPeriod := (order.perm _).mem_iff.mp (List.mem_of_mem_drop (List.mem_of_mem_take inPage))
    obtain ⟨at_, isResolved⟩ := Option.isSome_iff_exists.mp (resolved incident inPeriod)
    unfold listIncident Breaching
    rw [elapsedHours_of_resolved isResolved, breaches_of_resolved isResolved]
    exact ⟨_, rfl, rfl⟩
  obtain ⟨items, ran, breached⟩ := mapM_measured ListedIncident.breached steps
  let total := (periodIncidents tables workspaceId now weeks).length
  refine ⟨⟨items, total, number + 1, pageSize, decide (0 < total)⟩, ?_, ?_⟩
  · unfold getIncidentsWithSla
    dsimp only
    unfold shown periodIncidents at ran
    rw [Nat.add_sub_cancel, ran]
    rfl
  · dsimp only
    have counted := congrArg (List.countP id) breached
    rw [List.countP_map, List.countP_map] at counted
    exact counted

private theorem sum_pages {orders : Nat → NewestFirst Uuid} {pages : Nat → IncidentList Uuid}
    (resolved : Resolved (periodIncidents tables workspaceId now weeks))
    (listed : ∀ number, getIncidentsWithSla runtime formats tables workspaceId now (orders number)
      (7 * weeks) (number + 1) pageSize = .ok (pages number)) (count : Nat) :
    ((List.range count).map fun number => (pages number).items.countP (·.breached)).sum =
      listedOnPages (fun number => (orders number).arrange
        (periodIncidents tables workspaceId now weeks)) (Breaching runtime tables workspaceId)
        pageSize count := by
  unfold listedOnPages
  congr 1
  refine List.map_congr_left fun number _ => ?_
  obtain ⟨shown, computed, counted⟩ := getIncidentsWithSla_of_resolved runtime formats
    pageSize resolved (orders number) number
  rw [Except.ok.inj ((listed number).symm.trans computed)]
  exact counted

private theorem countP_past_iff {kind : Incident Uuid → Bool} :
    ((periodIncidents tables workspaceId now weeks).countP
        (openedWithin kind (now - days (7 * weeks)) now) =
          (periodIncidents tables workspaceId now weeks).countP kind) ↔
      ∀ incident ∈ periodIncidents tables workspaceId now weeks,
        kind incident → incident.openedAt < now := by
  have since : ∀ incident ∈ periodIncidents tables workspaceId now weeks,
      now - days (7 * weeks) ≤ incident.openedAt := by
    intro incident listed
    unfold periodIncidents openedSince at listed
    simp only [List.mem_filter, Bool.and_eq_true, decide_eq_true_eq] at listed
    exact listed.2.2
  have split : (periodIncidents tables workspaceId now weeks).countP kind =
      (periodIncidents tables workspaceId now weeks).countP
          (openedWithin kind (now - days (7 * weeks)) now) +
        (periodIncidents tables workspaceId now weeks).countP
          fun incident => kind incident && !openedWithin kind (now - days (7 * weeks)) now incident
      := by
    refine countP_disjoint (fun incident => ?_) (fun incident within => ?_)
    · cases ofKind : kind incident with
      | false => simp [openedWithin, ofKind]
      | true => cases openedWithin kind (now - days (7 * weeks)) now incident <;> rfl
    · rw [within, Bool.not_true, Bool.and_false]
  rw [split]
  constructor
  · intro equal incident listed ofKind
    have none := List.countP_eq_zero.mp (Nat.left_eq_add.mp equal) incident listed
    rw [ofKind, Bool.true_and, Bool.not_eq_true, Bool.not_eq_false'] at none
    unfold openedWithin at none
    simp only [Bool.and_eq_true, decide_eq_true_eq] at none
    exact none.2.2
  · intro past
    refine Nat.left_eq_add.mpr (List.countP_eq_zero.mpr fun incident listed later => ?_)
    obtain ⟨ofKind, notWithin⟩ := Bool.and_eq_true_iff.mp later
    unfold openedWithin at notWithin
    rw [ofKind, decide_eq_true (since incident listed),
      decide_eq_true (past incident listed ofKind)] at notWithin
    cases notWithin

/-- The views agree, in whatever order the pages come, if and only if every incident of the period
is resolved, none of those that breach is dated in the future, and no page boundary separates
incidents that were opened at the same time and of which one breaches. -/
theorem viewsAgree_iff (positive : 0 < pageSize) :
    (∀ orders, ViewsAgree runtime formats tables workspaceId now weeks pageSize orders) ↔
      Resolved (periodIncidents tables workspaceId now weeks) ∧
        (∀ incident ∈ periodIncidents tables workspaceId now weeks,
          Breaching runtime tables workspaceId incident → incident.openedAt < now) ∧
        TiesAgree (fun incident => -incident.openedAt) (Breaching runtime tables workspaceId)
          (periodIncidents tables workspaceId now weeks) pageSize := by
  have enough : (periodIncidents tables workspaceId now weeks).length ≤
      (periodIncidents tables workspaceId now weeks).length * pageSize :=
    Nat.le_mul_of_pos_right _ positive
  constructor
  · intro agree
    have resolved : Resolved (periodIncidents tables workspaceId now weeks) := by
      obtain ⟨tally, metrics, bySeverity, weekly, pages, tallied, -⟩ := agree fun _ => .stable _
      exact resolved_of_tallyIncidents tallied
    obtain ⟨_, metrics, -, metricsComputed, total, breached, -⟩ :=
      getMetrics_of_resolved runtime resolved
    refine ⟨resolved, ?_, ?_⟩
    · obtain ⟨-, reported, -, weekly, pages, -, computed, -, trend, -, -, -, inWeeks, -⟩ :=
        agree fun _ => .stable _
      obtain ⟨expected, trendComputed, counted⟩ :=
        getComplianceTrend_of_resolved runtime formats resolved
      cases computed.symm.trans metricsComputed
      cases trend.symm.trans trendComputed
      rw [breached, counted] at inWeeks
      exact countP_past_iff.mp inWeeks.symm
    · refine (listedOnPages_eq_countP_iff enough).mp fun orders => ?_
      obtain ⟨-, reported, -, -, pages, -, computed, -, -, listed, -, -, -, onPages⟩ :=
        agree orders
      cases computed.symm.trans metricsComputed
      rw [← sum_pages resolved listed, ← breached]
      exact (onPages _ (total ▸ enough)).symm
  · intro ⟨resolved, past, agree⟩ orders
    obtain ⟨tally, metrics, tallied, metricsComputed, total, breached, compliant⟩ :=
      getMetrics_of_resolved runtime resolved
    obtain ⟨bySeverity, severityComputed, bySeverityCount⟩ :=
      getBreachesBySeverity_of_resolved runtime formats resolved
    obtain ⟨weekly, trendComputed, weeklyCount⟩ :=
      getComplianceTrend_of_resolved runtime formats resolved
    choose pages listed counted using fun number =>
      getIncidentsWithSla_of_resolved runtime formats pageSize resolved (orders number) number
    refine ⟨tally, metrics, bySeverity, weekly, pages, tallied, metricsComputed, severityComputed,
      trendComputed, listed, compliant, breached.trans bySeverityCount.symm, ?_, ?_⟩
    · rw [breached, weeklyCount]
      exact (countP_past_iff.mpr past).symm
    · intro count all
      rw [sum_pages resolved listed, breached]
      exact ((listedOnPages_eq_countP_iff (total ▸ all)).mpr agree orders).symm

end Agreement

section Examples

private def labels : Formats := ⟨id, fun _ => ""⟩

private def outage (id : Nat) (openedAt : Int) (resolvedAt : Option Int) : Incident Nat where
  id := id
  workspaceId := 0
  title := "Outage"
  severity := "critical"
  priority := "P1"
  status := "resolved"
  openedAt := openedAt
  acknowledgedAt := none
  resolvedAt := resolvedAt
  ownerId := none

private def incidentsOnly (incidents : List (Incident Nat)) : Tables Nat := ⟨incidents, [], []⟩

private def shortOutage : Incident Nat := outage 1 (days 9) (some (days 9 + 60))

private def longOutage : Incident Nat := outage 2 (days 8) (some (days 10))

private def nextOutage : Incident Nat := outage 3 (days 8 + 60) (some (days 11))

/-- Three incidents that were resolved, two of them later than their agreement allows, on pages of
two. -/
theorem resolved_outage_counted_alike :
    0 < 2 ∧
      ∀ orders, ViewsAgree .ascii labels (incidentsOnly [shortOutage, longOutage, nextOutage]) 0
        (days 12) 1 2 orders := by
  have period : periodIncidents (incidentsOnly [shortOutage, longOutage, nextOutage]) 0 (days 12)
      1 = [shortOutage, longOutage, nextOutage] := rfl
  refine ⟨by decide, (viewsAgree_iff (by decide)).mpr ⟨?_, ?_, ?_⟩⟩
  · rw [period]
    unfold Resolved
    decide
  · rw [period]
    have past : ∀ incident ∈ [shortOutage, longOutage, nextOutage],
        incident.openedAt < days 12 := by
      decide
    exact fun incident listed _ => past incident listed
  · rw [period]
    intro number first inFirst second inSecond together _
    simp only [List.mem_cons, List.not_mem_nil, or_false] at inFirst inSecond
    -- no two of them were opened together
    rcases inFirst with rfl | rfl | rfl <;> rcases inSecond with rfl | rfl | rfl <;>
      first | rfl | exact absurd together (by decide)

/-- While an incident is open, its elapsed time cannot be computed. -/
theorem open_outage_raises :
    (getMetrics .ascii (incidentsOnly [outage 1 (days 9) none]) 0 (days 12) 7 false).isOk = false ∧
      (getBreachesBySeverity .ascii labels (incidentsOnly [outage 1 (days 9) none]) 0 (days 12) 7 false).isOk = false ∧
      (getComplianceTrend .ascii labels (incidentsOnly [outage 1 (days 9) none]) 0 (days 12) 1 false).isOk = false ∧
      (getIncidentsWithSla .ascii labels (incidentsOnly [outage 1 (days 9) none]) 0 (days 12) (.stable _) 7 1 10).isOk =
        false := by
  decide +kernel

end Examples

end CogniDQ.Kqi
