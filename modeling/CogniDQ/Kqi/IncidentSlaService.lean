import CogniDQ.Database.Paging
import CogniDQ.Rules.RuleExecutor

/-!
# Service levels of incidents

The four views of the incident SLA service. Each computes the elapsed hours of an incident on its
own; the clock that they read has no time zone, and the times of an incident have one.
-/

set_option autoImplicit false

namespace CogniDQ.Kqi

open CogniDQ.Database CogniDQ.Python CogniDQ.Rules

/-- A `datetime`, in microseconds, without or with a time zone. -/
inductive Timestamp where
  | naive (micros : Int)
  | aware (micros : Int)

inductive TimeError where
  /-- `can't subtract offset-naive and offset-aware datetimes`. -/
  | mixedTimestamps
  deriving DecidableEq

def Timestamp.sub : Timestamp → Timestamp → Except TimeError Int
  | .naive later, .naive earlier => .ok (later - earlier)
  | .aware later, .aware earlier => .ok (later - earlier)
  | _, _ => .error .mixedTimestamps

def days (count : Int) : Int := count * (24 * 3600 * 1000000)

/-- A row of `incidents`: the columns that the views read. The times are instants. -/
structure Incident (Uuid : Type) where
  id : Uuid
  workspaceId : Uuid
  title : String
  severity : String
  priority : String
  status : String
  openedAt : Int
  acknowledgedAt : Option Int
  resolvedAt : Option Int
  ownerId : Option Uuid

structure SLADefinition (Uuid : Type) where
  workspaceId : Uuid
  severityLevel : String
  targetHours : Rat

/-- A cached metric; a time that is not set is null. -/
structure CacheEntry (Uuid : Type) where
  workspaceId : Uuid
  metricType : String
  metricValue : Value
  calculatedAt : Option Int

/-- What a view returns: what is cached, or what it has computed. -/
inductive Reported (Result : Type) where
  | cached (value : Value)
  | computed (result : Result)

structure Tables (Uuid : Type) where
  incidents : List (Incident Uuid)
  /-- In the order in which the database returns them. -/
  definitions : List (SLADefinition Uuid)
  cache : List (CacheEntry Uuid)

/-- The string and number functions of the interpreter that the runtime does not have. -/
structure Formats where
  capitalize : String → String
  /-- `strftime("%b %d")`. -/
  dayLabel : Int → String

def defaultSlaHours (severity : String) : Option Rat :=
  match severity with
  | "critical" => some 4
  | "major" => some 8
  | "minor" => some 24
  | "informational" => some 72
  | _ => none

structure SlaMetrics where
  complianceRate : Rat
  breachesCount : Nat
  avgBreachDurationHours : Rat
  mttrHours : Rat
  totalIncidents : Nat
  resolvedCount : Nat
  openCount : Nat
  hasData : Bool

structure Breaches where
  /-- Names and values, the largest value first. -/
  distribution : List (String × Nat)
  hasData : Bool

structure WeekTrend where
  date : String
  compliance : Rat
  breaches : Nat

structure ComplianceTrend where
  trend : List WeekTrend
  hasData : Bool

structure ListedIncident (Uuid : Type) where
  id : Uuid
  title : String
  severity : String
  priority : String
  status : String
  created : Int
  slaTargetHours : Rat
  elapsedHours : Rat
  breached : Bool
  acknowledgedAt : Option Int
  resolvedAt : Option Int
  ownerId : Option Uuid

structure IncidentList (Uuid : Type) where
  items : List (ListedIncident Uuid)
  total : Nat
  page : Nat
  pageSize : Nat
  hasData : Bool

section Views

variable {Uuid : Type} [DecidableEq Uuid] (runtime : Runtime) (formats : Formats)
  (tables : Tables Uuid) (workspaceId : Uuid) (now : Int)

/-- `_get_cached`: an entry that is younger than five minutes. -/
def getCached (metricType : String) : Option (CacheEntry Uuid) :=
  tables.cache.find? fun entry =>
    entry.workspaceId = workspaceId && entry.metricType == metricType &&
      entry.calculatedAt.any fun calculated => now - 5 * 60 * 1000000 < calculated

/-- `_get_sla_map`: a later definition of a severity replaces an earlier one. -/
def getSlaMap : String → Option Rat :=
  (tables.definitions.filter fun row => row.workspaceId = workspaceId).foldl
    (fun slaMap row severity =>
      if severity = runtime.lowerStr row.severityLevel then some row.targetHours
      else slaMap severity)
    defaultSlaHours

def severityOf (incident : Incident Uuid) : String :=
  runtime.lowerStr (if incident.severity = "" then "minor" else incident.severity)

def targetHours (slaMap : String → Option Rat) (severity : String) : Rat :=
  (slaMap severity).getD ((defaultSlaHours severity).getD 24)

def round1 (value : Rat) : Rat := runtime.nearest (roundHalfEven (value * 10) / 10)

def hours (micros : Int) : Rat :=
  runtime.nearest (runtime.nearest (micros / 1000000) / 3600)

def elapsedHours (incident : Incident Uuid) : Except TimeError Rat := do
  let ended : Timestamp := incident.resolvedAt.elim (.naive now) .aware
  let micros ← ended.sub (.aware incident.openedAt)
  return hours runtime micros

def openedSince (since : Int) : List (Incident Uuid) :=
  tables.incidents.filter fun incident =>
    incident.workspaceId = workspaceId && decide (since ≤ incident.openedAt)

/-- The counters of `get_metrics`. -/
structure Tally where
  compliant : Nat
  breached : Nat
  breachDurations : List Rat
  resolutionTimes : List Rat
  resolvedCount : Nat
  openCount : Nat

def Tally.empty : Tally := ⟨0, 0, [], [], 0, 0⟩

def Tally.add (slaMap : String → Option Rat) (tally : Tally) (incident : Incident Uuid) :
    Except TimeError Tally := do
  let targetH := targetHours slaMap (severityOf runtime incident)
  let elapsedH ← elapsedHours runtime now incident
  let tally :=
    match incident.resolvedAt with
    | some _ =>
      { tally with
        resolvedCount := tally.resolvedCount + 1
        resolutionTimes := tally.resolutionTimes ++ [elapsedH] }
    | none => { tally with openCount := tally.openCount + 1 }
  if elapsedH ≤ targetH then return { tally with compliant := tally.compliant + 1 }
  else
    return { tally with
      breached := tally.breached + 1
      breachDurations := tally.breachDurations ++ [runtime.nearest (elapsedH - targetH)] }

def tallyIncidents (slaMap : String → Option Rat) (incidents : List (Incident Uuid)) :
    Except TimeError Tally :=
  incidents.foldlM (Tally.add runtime now slaMap) .empty

def average1 (values : List Rat) : Rat :=
  if values = [] then 0
  else
    round1 runtime (runtime.nearest
      (values.foldl (fun sum value => runtime.nearest (sum + value)) 0 / values.length))

def complianceRate (compliant total : Nat) : Rat :=
  if total = 0 then 100
  else round1 runtime (runtime.nearest (runtime.nearest (compliant / total) * 100))

def Tally.metrics (total : Nat) (tally : Tally) : SlaMetrics where
  complianceRate := complianceRate runtime tally.compliant total
  breachesCount := tally.breached
  avgBreachDurationHours := average1 runtime tally.breachDurations
  mttrHours := average1 runtime tally.resolutionTimes
  totalIncidents := total
  resolvedCount := tally.resolvedCount
  openCount := tally.openCount
  hasData := true

def noIncidents : SlaMetrics where
  complianceRate := 100
  breachesCount := 0
  avgBreachDurationHours := 0
  mttrHours := 0
  totalIncidents := 0
  resolvedCount := 0
  openCount := 0
  hasData := false

def getMetrics (periodDays : Int) (useCache : Bool) : Except TimeError (Reported SlaMetrics) :=
  let metricType := "incident_sla_metrics_" ++ toString periodDays
  match (getCached tables workspaceId now metricType).filter fun _ => useCache with
  | some entry => .ok (.cached entry.metricValue)
  | none =>
    let slaMap := getSlaMap runtime tables workspaceId
    let incidents := openedSince tables workspaceId (now - days periodDays)
    if incidents.length = 0 then .ok (.computed noIncidents)
    else do
      let tally ← tallyIncidents runtime now slaMap incidents
      return .computed (tally.metrics runtime incidents.length)

/-- `counts[name] = counts.get(name, 0) + 1` on a dictionary in insertion order. -/
def increment (name : String) : List (String × Nat) → List (String × Nat)
  | [] => [(name, 1)]
  | (other, count) :: rest =>
    if other = name then (other, count + 1) :: rest else (other, count) :: increment name rest

def countBreach (slaMap : String → Option Rat) (counts : List (String × Nat))
    (incident : Incident Uuid) : Except TimeError (List (String × Nat)) := do
  let severity := severityOf runtime incident
  let elapsedH ← elapsedHours runtime now incident
  if targetHours slaMap severity < elapsedH then
    return increment (formats.capitalize severity) counts
  else return counts

def getBreachesBySeverity (periodDays : Int) (useCache : Bool) :
    Except TimeError (Reported Breaches) :=
  let metricType := "incident_sla_breaches_severity_" ++ toString periodDays
  match (getCached tables workspaceId now metricType).filter fun _ => useCache with
  | some entry => .ok (.cached entry.metricValue)
  | none => do
    let slaMap := getSlaMap runtime tables workspaceId
    let incidents := openedSince tables workspaceId (now - days periodDays)
    let counts ← incidents.foldlM (countBreach runtime formats now slaMap) []
    let distribution := counts.mergeSort fun first second => decide (second.2 ≤ first.2)
    return .computed { distribution, hasData := decide (0 < distribution.length) }

def countWeek (slaMap : String → Option Rat) (counts : Nat × Nat) (incident : Incident Uuid) :
    Except TimeError (Nat × Nat) := do
  let elapsedH ← elapsedHours runtime now incident
  if elapsedH ≤ targetHours slaMap (severityOf runtime incident) then
    return (counts.1 + 1, counts.2)
  else return (counts.1, counts.2 + 1)

def weekTrend (slaMap : String → Option Rat) (weeksAgo : Nat) : Except TimeError WeekTrend := do
  let weekEnd := now - days (7 * weeksAgo)
  let weekStart := weekEnd - days 7
  let incidents := (openedSince tables workspaceId weekStart).filter fun incident =>
    decide (incident.openedAt < weekEnd)
  let counts ← incidents.foldlM (countWeek runtime now slaMap) (0, 0)
  return {
    date := formats.dayLabel weekStart
    compliance := complianceRate runtime counts.1 incidents.length
    breaches := counts.2 }

def getComplianceTrend (weeks : Nat) (useCache : Bool) :
    Except TimeError (Reported ComplianceTrend) :=
  let metricType := "incident_sla_trend_" ++ toString weeks
  match (getCached tables workspaceId now metricType).filter fun _ => useCache with
  | some entry => .ok (.cached entry.metricValue)
  | none => do
    let slaMap := getSlaMap runtime tables workspaceId
    let trend ← (List.range weeks).reverse.mapM
      (weekTrend runtime formats tables workspaceId now slaMap)
    return .computed
      { trend, hasData := trend.any fun week => decide (0 < week.breaches ∨ week.compliance < 100) }

def listIncident (slaMap : String → Option Rat) (incident : Incident Uuid) :
    Except TimeError (ListedIncident Uuid) := do
  let targetH := targetHours slaMap (severityOf runtime incident)
  let elapsedH ← elapsedHours runtime now incident
  return {
    id := incident.id
    title := incident.title
    severity := formats.capitalize (if incident.severity = "" then "minor" else incident.severity)
    priority := if incident.priority = "" then "P3" else incident.priority
    status := formats.capitalize (if incident.status = "" then "open" else incident.status)
    created := incident.openedAt
    slaTargetHours := targetH
    elapsedHours := round1 runtime elapsedH
    breached := decide (targetH < elapsedH)
    acknowledgedAt := incident.acknowledgedAt
    resolvedAt := incident.resolvedAt
    ownerId := incident.ownerId }

/-- `opened_at.desc()`: incidents that were opened at the same time come in any order. -/
abbrev NewestFirst (Uuid : Type) : Type := OrderBy (Incident Uuid) fun incident => -incident.openedAt

def getIncidentsWithSla (order : NewestFirst Uuid) (periodDays : Int) (page pageSize : Nat) :
    Except TimeError (IncidentList Uuid) := do
  let slaMap := getSlaMap runtime tables workspaceId
  let matching := openedSince tables workspaceId (now - days periodDays)
  let incidents := Database.page (order.arrange matching) pageSize (page - 1)
  let items ← incidents.mapM (listIncident runtime formats now slaMap)
  return {
    items
    total := matching.length
    page
    pageSize
    hasData := decide (0 < matching.length) }

end Views

end CogniDQ.Kqi
