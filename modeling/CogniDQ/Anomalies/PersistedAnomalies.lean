import CogniDQ.Database.Paging
import CogniDQ.Database.Rows
import CogniDQ.Protocol.Runs

/-!
# The anomaly register

Anomalies that detection runs have found, with the transitions that users make. A run searches the
database for each anomaly while its own inserts are still pending.
-/

set_option autoImplicit false

namespace CogniDQ.Anomalies

open CogniDQ.Database

inductive AnomalyStatus where
  | open
  | acknowledged
  | resolved
  | suppressed
deriving DecidableEq

/-- What the detector reports. It names no rule in its output; `rule` is the one whose executions it
has judged, where it has judged a rule. -/
structure Anomaly (Uuid : Type) where
  dataset : String
  column : String
  anomaly : String
  anomalyType : String
  severity : String
  currentValue : String
  expectedValue : String
  deviation : String
  rule : Option Uuid

structure DetectedAnomaly (Uuid : Type) where
  workspaceId : Uuid
  tenantId : Uuid
  anomalyType : String
  severity : String
  dataset : String
  columnName : String
  ruleId : Option Uuid
  summary : String
  currentValue : String
  expectedValue : String
  deviation : String
  status : AnomalyStatus
  detectedAt : Int
  acknowledgedAt : Option Int
  acknowledgedBy : Option Uuid
  resolvedAt : Option Int
  resolvedBy : Option Uuid
  notes : Option String
  fingerprint : String
  /-- The rules whose anomalies were written to the row. -/
  writtenFor : List Uuid

abbrev AnomalyRows (Uuid : Type) : Type := Rows Uuid (DetectedAnomaly Uuid)

def dedupWindow : Int := 24 * 3600 * 1000000

section Service

variable {Uuid : Type} [DecidableEq Uuid] (str : Uuid → String) (sha1 : String → String)

/-- `anomaly.get("rule_id")`: the detector does not fill it. -/
def Anomaly.ruleId (_ : Anomaly Uuid) : Option Uuid := none

def fingerprint (workspaceId : Uuid) (anomaly : Anomaly Uuid) : String :=
  sha1 ("|".intercalate [str workspaceId, anomaly.anomalyType, anomaly.dataset, anomaly.column,
    (anomaly.ruleId.map str).getD ""])

def DetectedAnomaly.isActive (row : DetectedAnomaly Uuid) : Bool :=
  row.status = .open || row.status = .acknowledged

def matching (workspaceId : Uuid) (now : Int) (print : String) (row : DetectedAnomaly Uuid) : Bool :=
  row.workspaceId = workspaceId && row.fingerprint == print && row.isActive &&
    decide (now - dedupWindow ≤ row.detectedAt)

abbrev NewestFirst (Uuid : Type) : Type :=
  OrderBy (Sigma fun _ : Uuid => DetectedAnomaly Uuid) fun entry => -entry.2.detectedAt

/-- An anomaly as a run handles it: the row it would insert, and the order in which the search
returns rows that were detected at the same time. -/
structure Detection (Uuid : Type) where
  anomaly : Anomaly Uuid
  newId : Uuid
  order : NewestFirst Uuid

def existing (register : AnomalyRows Uuid) (order : NewestFirst Uuid) (workspaceId : Uuid)
    (now : Int) (print : String) : Option Uuid :=
  ((order.arrange (register.entries.filter fun entry =>
    matching workspaceId now print entry.2)).head?).map (·.1)

def DetectedAnomaly.refresh (row : DetectedAnomaly Uuid) (now : Int) (anomaly : Anomaly Uuid) :
    DetectedAnomaly Uuid :=
  { row with
    severity := anomaly.severity
    summary := anomaly.anomaly
    currentValue := anomaly.currentValue
    expectedValue := anomaly.expectedValue
    deviation := anomaly.deviation
    detectedAt := now
    writtenFor := row.writtenFor ++ anomaly.rule.toList }

def newAnomaly (workspaceId tenantId : Uuid) (now : Int) (anomaly : Anomaly Uuid) :
    DetectedAnomaly Uuid where
  workspaceId := workspaceId
  tenantId := tenantId
  anomalyType := anomaly.anomalyType
  severity := anomaly.severity
  dataset := anomaly.dataset
  columnName := anomaly.column
  ruleId := anomaly.ruleId
  summary := anomaly.anomaly
  currentValue := anomaly.currentValue
  expectedValue := anomaly.expectedValue
  deviation := anomaly.deviation
  status := .open
  detectedAt := now
  acknowledgedAt := none
  acknowledgedBy := none
  resolvedAt := none
  resolvedBy := none
  notes := none
  fingerprint := fingerprint str sha1 workspaceId anomaly
  writtenFor := anomaly.rule.toList

/-- One anomaly of a run: the search reads the register as it was before the run, and the change is
one of the session. Nothing if the identifier of a new row is taken. -/
def persist (register : AnomalyRows Uuid) (workspaceId tenantId : Uuid) (now : Int)
    (session : AnomalyRows Uuid) (detection : Detection Uuid) : Option (AnomalyRows Uuid) :=
  match existing register detection.order workspaceId now
      (fingerprint str sha1 workspaceId detection.anomaly) with
  | some id => some (session.modify id fun row => row.refresh now detection.anomaly)
  | none =>
    if (session.lookup detection.newId).isSome then none
    else some (session.insert detection.newId
      (newAnomaly str sha1 workspaceId tenantId now detection.anomaly))

def detectAndPersist (register : AnomalyRows Uuid) (workspaceId tenantId : Uuid) (now : Int)
    (detected : List (Detection Uuid)) : Option (AnomalyRows Uuid) :=
  detected.foldlM (persist str sha1 register workspaceId tenantId now) register

/-- `if notes:`. -/
def noted (notes : Option String) (row : DetectedAnomaly Uuid) : Option String :=
  match notes with
  | none => row.notes
  | some text => if text = "" then row.notes else some text

inductive Call (Uuid : Type) where
  | detect (tenantId : Uuid) (detected : List (Detection Uuid))
  | acknowledge (anomalyId actorId : Uuid) (notes : Option String)
  | resolve (anomalyId actorId : Uuid) (notes : Option String)
  | suppress (anomalyId actorId : Uuid) (notes : Option String)

def transition (register : AnomalyRows Uuid) (workspaceId anomalyId : Uuid)
    (change : DetectedAnomaly Uuid → DetectedAnomaly Uuid) : AnomalyRows Uuid :=
  register.modify anomalyId fun row => if row.workspaceId = workspaceId then change row else row

def acknowledge (now : Int) (actorId : Uuid) (notes : Option String) (row : DetectedAnomaly Uuid) :
    DetectedAnomaly Uuid :=
  { row with
    status := .acknowledged
    acknowledgedAt := some now
    acknowledgedBy := some actorId
    notes := noted notes row }

def resolve (now : Int) (actorId : Uuid) (notes : Option String) (row : DetectedAnomaly Uuid) :
    DetectedAnomaly Uuid :=
  { row with
    status := .resolved
    resolvedAt := some now
    resolvedBy := some actorId
    notes := noted notes row }

def suppress (now : Int) (actorId : Uuid) (notes : Option String) (row : DetectedAnomaly Uuid) :
    DetectedAnomaly Uuid :=
  { row with
    status := .suppressed
    resolvedAt := some now
    resolvedBy := some actorId
    notes := noted notes row }

def perform (register : AnomalyRows Uuid) (workspaceId : Uuid) (now : Int) :
    Call Uuid → Option (AnomalyRows Uuid)
  | .detect tenantId detected =>
    detectAndPersist str sha1 register workspaceId tenantId now detected
  | .acknowledge anomalyId actorId notes =>
    some (transition register workspaceId anomalyId (acknowledge now actorId notes))
  | .resolve anomalyId actorId notes =>
    some (transition register workspaceId anomalyId (resolve now actorId notes))
  | .suppress anomalyId actorId notes =>
    some (transition register workspaceId anomalyId (suppress now actorId notes))

/-- A call at a time; one whose commit fails leaves the register as it is. -/
structure Action (Uuid : Type) where
  now : Int
  workspaceId : Uuid
  call : Call Uuid
  commits : Bool

structure State (Uuid : Type) where
  register : AnomalyRows Uuid
  clock : Int

def State.empty (clock : Int) : State Uuid := ⟨∅, clock⟩

def step (state : State Uuid) (action : Action Uuid) : Option (State Uuid) :=
  if state.clock < action.now then
    let performed := perform str sha1 state.register action.workspaceId action.now action.call
    some ⟨(performed.filter fun _ => action.commits).getD state.register, action.now⟩
  else none

end Service

end CogniDQ.Anomalies
