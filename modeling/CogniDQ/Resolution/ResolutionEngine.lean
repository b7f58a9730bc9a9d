import CogniDQ.Metadata.SyncService
import CogniDQ.Python.Dynamic
import CogniDQ.Rules.RuleExecutor

/-!
# Resolution of terms

`ResolutionEngine.resolve`: the candidates that the metadata search has for the words of a rule, the
weighted score of each, and the column that is written into the rule when one of them stands out. A
score is an exact number.
-/

set_option autoImplicit false

namespace CogniDQ.Resolution

open CogniDQ.Database CogniDQ.Metadata CogniDQ.Python
open CogniDQ.Rules (roundHalfEven)

structure MetadataAsset (Uuid : Type) where
  assetId : Uuid
  assetType : String
  workspaceId : Uuid
  name : String
  businessDomain : Option String
  dataType : Option String
  parentAssetId : Option Uuid
deriving DecidableEq

/-! ### Search -/

/-- The full-text and trigram matching of the database: whether a query finds an entry, and how
well. -/
structure TextSearch (Uuid : Type) where
  finds : String → Asset Uuid → Bool
  relevance : String → Asset Uuid → Rat

section Search

variable {Uuid : Type} [DecidableEq Uuid]

def MetadataAsset.ofEntry (key : AssetKey Uuid) (asset : Asset Uuid) : MetadataAsset Uuid where
  assetId := asset.assetId
  assetType := asset.assetType
  workspaceId := key.workspaceId
  name := asset.name
  businessDomain := asset.businessDomain
  dataType := asset.dataType
  parentAssetId := asset.parentAssetId

def searchAssets (engine : TextSearch Uuid) (runtime : Runtime) (index : Index Uuid)
    (workspaceId : Uuid) (query : String) (assetType : String) (domain : Option String)
    (limit : Nat) : List (MetadataAsset Uuid) :=
  let query := runtime.stripStr query
  if query = "" then []
  else
    let limit := min (max limit 1) 100
    let found := index.entries.filter fun entry =>
      entry.1.workspaceId = workspaceId && engine.finds query entry.2 &&
        entry.2.assetType == assetType &&
          (domain.all (· == "") || entry.2.businessDomain == domain)
    let ranked := found.mergeSort fun first second =>
      decide (engine.relevance query second.2 ≤ engine.relevance query first.2)
    (ranked.take limit).map fun entry => .ofEntry entry.1 entry.2

def fieldAssets (index : Index Uuid) (workspaceId : Uuid) : List (MetadataAsset Uuid) :=
  (index.entries.map fun entry => .ofEntry entry.1 entry.2).filter fun asset =>
    asset.workspaceId = workspaceId && asset.assetType == "field"

end Search

/-! ### Signals -/

inductive Signal where
  | lexicalMatch
  | glossaryMatch
  | datasetContext
  | domainContext
  | lineageProximity
  | profileCompatibility
  | historicalUsage
  | coOccurrence
  | ownership
deriving DecidableEq

def signalFunctions : List (String × Signal) :=
  [("lexical_match", .lexicalMatch), ("glossary_match", .glossaryMatch),
    ("dataset_context", .datasetContext), ("domain_context", .domainContext),
    ("lineage_proximity", .lineageProximity), ("profile_compatibility", .profileCompatibility),
    ("historical_usage", .historicalUsage), ("co_occurrence", .coOccurrence),
    ("ownership", .ownership)]

def defaultWeights : List (String × Rat) :=
  [("lexical_match", 20 / 100), ("glossary_match", 20 / 100), ("dataset_context", 15 / 100),
    ("domain_context", 10 / 100), ("lineage_proximity", 10 / 100),
    ("profile_compatibility", 10 / 100), ("historical_usage", 5 / 100), ("co_occurrence", 5 / 100),
    ("ownership", 5 / 100)]

/-- Why a signal is taken for neutral when nothing is known about the candidate. -/
def Signal.unavailable : Signal → Option String
  | .lineageProximity => some "lineage_unavailable"
  | .coOccurrence => some "cooccurrence_unavailable"
  | .historicalUsage => some "history_unavailable"
  | .ownership => some "profile_unavailable"
  | _ => none

structure Context where
  datasetHint : Option String
  domainHint : Option String
  operator : Option String

/-- What the signals say of a candidate in the enriched context of a workspace. -/
structure Signals (Uuid : Type) where
  /-- The context has an entry for the candidate. -/
  knows : Signal → Uuid → Bool
  score : Signal → Context → String → MetadataAsset Uuid → Rat

structure SignalBreakdown where
  signalName : String
  score : Rat
  available : Bool
  reason : Option String

def round4 (value : Rat) : Rat := roundHalfEven (value * 10 ^ 4) / 10 ^ 4

section Scores

variable {Uuid : Type}

/-- One signal of a candidate, between zero and one, and how it is reported. -/
def Signals.read (signals : Signals Uuid) (name : String) (signal : Signal) (context : Context)
    (rawText : String) (candidate : MetadataAsset Uuid) : Rat × SignalBreakdown :=
  let reason := if signals.knows signal candidate.assetId then none else signal.unavailable
  let rawScore := if reason.isSome then 1 / 2 else signals.score signal context rawText candidate
  let rawScore := max 0 (min 1 rawScore)
  (rawScore, ⟨name, round4 rawScore, reason.isNone, reason⟩)

/-- The signals of a candidate with their weights; a name that is no signal is passed over. -/
def weightedSignals (signals : Signals Uuid) (rawText : String) (candidate : MetadataAsset Uuid)
    (context : Context) (weights : List (String × Rat)) : List (Rat × SignalBreakdown) :=
  weights.filterMap fun weight => (signalFunctions.lookup weight.1).map fun signal =>
    let read := signals.read weight.1 signal context rawText candidate
    (read.1 * weight.2, read.2)

def computeWeightedScore (signals : Signals Uuid) (rawText : String)
    (candidate : MetadataAsset Uuid) (context : Context) (weights : List (String × Rat)) :
    Rat × List SignalBreakdown :=
  let weights := if weights.isEmpty then defaultWeights else weights
  let read := weightedSignals signals rawText candidate context weights
  (round4 (min (read.map (·.1)).sum 1), read.map (·.2))

def dateTypes : List String := ["date", "datetime", "timestamp", "timestamptz", "time"]

def numericTypes : List String :=
  ["int", "integer", "bigint", "smallint", "float", "double", "decimal", "numeric", "real",
    "number"]

def stringTypes : List String := ["varchar", "text", "char", "string", "character varying"]

/-- `_OPERATOR_TYPE_MAP`; none for an operator that takes any type. -/
def operatorTypeMap : List (String × Option (List String)) :=
  [("greater_than", some (numericTypes ++ dateTypes)),
    ("less_than", some (numericTypes ++ dateTypes)),
    ("between", some (numericTypes ++ dateTypes)), ("after", some dateTypes),
    ("before", some dateTypes), ("is_not_null", none), ("is_null", none), ("equals", none),
    ("not_equals", none), ("in_list", none), ("not_in_list", none),
    ("matches_pattern", some stringTypes), ("contains", some stringTypes)]

def isTypeCompatible (runtime : Runtime) (candidate : MetadataAsset Uuid)
    (operator : Option String) : Bool :=
  match operator, candidate.dataType with
  | some operator, some dataType =>
    if operator = "" || dataType = "" then true
    else match operatorTypeMap.lookup operator with
      | some (some compatibleTypes) =>
        let ctype := runtime.stripStr (runtime.lowerStr dataType)
        compatibleTypes.any fun type => isIn type.toList ctype.toList
      | _ => true
  | _, _ => true

end Scores

/-! ### The engine -/

def highThreshold : Rat := 90 / 100

def disambiguationThreshold : Rat := 70 / 100

def scoreGapThreshold : Rat := 10 / 100

def defaultTopK : Nat := 5

structure ResolutionCandidate (Uuid : Type) where
  assetId : Uuid
  columnName : String
  datasetName : Option String
  datasetId : Option Uuid
  dataType : Option String
  overallScore : Rat
  confidenceBand : String
  signalBreakdown : List SignalBreakdown
  evidenceSummary : List String

structure EntityResolution (Uuid : Type) where
  rawText : String
  candidates : List (ResolutionCandidate Uuid)
  bestCandidate : Option (ResolutionCandidate Uuid)
  requiresDisambiguation : Bool

/-- What a rule refers to, and the column that it stands for. -/
structure SIREntity where
  rawText : String
  resolvedColumn : Option String
  resolvedDataset : Option String
  columnId : Option String
  datasetId : Option String

/-- The part of a parsed rule that the engine reads and writes. -/
structure ParsedRule where
  subject : SIREntity
  operator : Option String
  object : Option SIREntity
  scopeDatasetHint : Option String
  scopeDomainHint : Option String

structure ResolveRequest where
  parsedRule : ParsedRule
  datasetContext : Option String
  domainContext : Option String
  /-- The id that a user has chosen for an entity. -/
  selectedCandidates : Option (List (String × String))

structure ResolveResponse (Uuid : Type) where
  resolvedRule : ParsedRule
  subjectResolution : EntityResolution Uuid
  objectResolution : Option (EntityResolution Uuid)
  overallConfidence : Rat
  requiresDisambiguation : Bool

/-- An engine at work: the weights that it was made with, none of them negative, and what it is
given to work on. -/
structure ResolutionEngine (Uuid : Type) where
  runtime : Runtime
  uuid : String → Option Uuid
  uuidText : Uuid → String
  uuid_uuidText : ∀ id, uuid (uuidText id) = some id
  search : TextSearch Uuid
  signals : Signals Uuid
  weights : List (String × Rat)
  weights_nonneg : ∀ weight ∈ weights, 0 ≤ weight.2

namespace ResolutionEngine

variable {Uuid : Type} [DecidableEq Uuid] (engine : ResolutionEngine Uuid)

def hint (given fallback : Option String) : Option String :=
  (given.filter (· != "")).or (fallback.filter (· != ""))

def buildContext (request : ResolveRequest) : Context where
  datasetHint := hint request.datasetContext request.parsedRule.scopeDatasetHint
  domainHint := hint request.domainContext request.parsedRule.scopeDomainHint
  operator := request.parsedRule.operator.filter (· != "")

def getCandidates (index : Index Uuid) (workspaceId : Uuid) (rawText : String)
    (context : Context) : List (MetadataAsset Uuid) :=
  searchAssets engine.search engine.runtime index workspaceId rawText "field" context.domainHint 50

omit [DecidableEq Uuid] in
def overallScore (rawText : String) (context : Context) (candidate : MetadataAsset Uuid) : Rat :=
  (computeWeightedScore engine.signals rawText candidate context engine.weights).1

omit [DecidableEq Uuid] in
/-- A candidate with its score, as `_score_candidates` lists it. -/
def scoreCandidate (rawText : String) (context : Context) (candidate : MetadataAsset Uuid) :
    ResolutionCandidate Uuid :=
  let scored := computeWeightedScore engine.signals rawText candidate context engine.weights
  { assetId := candidate.assetId
    columnName := candidate.name
    datasetName := none
    datasetId := candidate.parentAssetId
    dataType := candidate.dataType
    overallScore := scored.1
    confidenceBand :=
      if highThreshold ≤ scored.1 then "high"
      else if disambiguationThreshold ≤ scored.1 then "medium"
      else "low"
    signalBreakdown := scored.2
    evidenceSummary := (scored.2.filter fun signal => 0 < signal.score).map (·.signalName) }

omit [DecidableEq Uuid] in
def evaluateConfidence : List (ResolutionCandidate Uuid) → Bool × Option (ResolutionCandidate Uuid)
  | [] => (true, none)
  | best :: rest =>
    if best.overallScore < disambiguationThreshold then (true, some best)
    else if rest.head?.any fun second =>
        best.overallScore - second.overallScore < scoreGapThreshold then (true, some best)
    else if best.overallScore < highThreshold then (true, some best)
    else (false, some best)

omit [DecidableEq Uuid] in
def ranked (scored : List (ResolutionCandidate Uuid)) : List (ResolutionCandidate Uuid) :=
  scored.mergeSort fun first second => decide (second.overallScore ≤ first.overallScore)

def overrideOf (overrides : Option (List (String × String))) (entityKey : String) :
    Option String :=
  overrides.bind (List.lookup entityKey)

omit [DecidableEq Uuid] in
def overrideResolution (rawText : String) (assetId : Uuid) : EntityResolution Uuid where
  rawText := rawText
  candidates := []
  bestCandidate := some ⟨assetId, rawText, none, none, none, 1, "high", [], ["User override"]⟩
  requiresDisambiguation := false

/-- The ranked candidates that the search finds, less those of a type that the operator cannot
take. -/
def poolResolution (index : Index Uuid) (workspaceId : Uuid) (rawText : String)
    (context : Context) : EntityResolution Uuid :=
  let candidates := (engine.getCandidates index workspaceId rawText context).filter
    fun candidate => isTypeCompatible engine.runtime candidate context.operator
  let scored := (ranked (candidates.map (engine.scoreCandidate rawText context))).take defaultTopK
  let evaluated := evaluateConfidence scored
  ⟨rawText, scored, evaluated.2, evaluated.1⟩

def resolveEntity (index : Index Uuid) (workspaceId : Uuid) (rawText entityKey : String)
    (context : Context) (overrides : Option (List (String × String))) :
    Except Exn (EntityResolution Uuid) :=
  match overrideOf overrides entityKey with
  | some overrideId =>
    match engine.uuid overrideId with
    | none => .error (.valueError "badly formed hexadecimal UUID string")
    | some assetId => .ok (overrideResolution rawText assetId)
  | none => .ok (engine.poolResolution index workspaceId rawText context)

omit [DecidableEq Uuid] in
def chosen (resolution : EntityResolution Uuid) : Option (ResolutionCandidate Uuid) :=
  if resolution.requiresDisambiguation then none else resolution.bestCandidate

omit [DecidableEq Uuid] in
def applyResolution (entity : SIREntity) (resolution : EntityResolution Uuid) : SIREntity :=
  match chosen resolution with
  | none => entity
  | some best =>
    { entity with
      resolvedColumn := some best.columnName
      columnId := some (engine.uuidText best.assetId)
      resolvedDataset :=
        if best.datasetName.any (· != "") then best.datasetName else entity.resolvedDataset
      datasetId := (best.datasetId.map engine.uuidText).or entity.datasetId }

def resolve (index : Index Uuid) (workspaceId : Uuid) (request : ResolveRequest) :
    Except Exn (ResolveResponse Uuid) := do
  let sir := request.parsedRule
  let context := buildContext request
  let overrides := request.selectedCandidates
  let subjectResolution ←
    engine.resolveEntity index workspaceId sir.subject.rawText "subject" context overrides
  let objectResolution ← sir.object.mapM fun object =>
    engine.resolveEntity index workspaceId object.rawText "object" context overrides
  let confidences :=
    (subjectResolution.bestCandidate.map (·.overallScore)).getD 0 ::
      ((objectResolution.bind (·.bestCandidate)).map (·.overallScore)).toList
  return {
    resolvedRule := { sir with
      subject := engine.applyResolution sir.subject subjectResolution
      object := sir.object.map fun object =>
        objectResolution.elim object (engine.applyResolution object) }
    subjectResolution := subjectResolution
    objectResolution := objectResolution
    overallConfidence := confidences.min?.getD 0
    requiresDisambiguation := subjectResolution.requiresDisambiguation ||
      objectResolution.any (·.requiresDisambiguation) }

end ResolutionEngine

end CogniDQ.Resolution
