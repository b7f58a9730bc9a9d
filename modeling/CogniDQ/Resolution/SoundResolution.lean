import CogniDQ.Resolution.ResolutionEngine

/-!
# Sound resolution

What the engine writes into a rule when it takes no question back to the user. From the pool it takes
a candidate that stands out; what a user has chosen it takes as it comes, under the words of the rule.
-/

set_option autoImplicit false

namespace CogniDQ.Resolution

open CogniDQ.Database CogniDQ.Metadata CogniDQ.Python

namespace ResolutionEngine

variable {Uuid : Type} [DecidableEq Uuid] (engine : ResolutionEngine Uuid)

/-! ### The candidate that stands out -/

/-- One candidate of the pool fits the operator, scores high, and leaves every other one that fits
behind by the gap. -/
def StandsOut (pool : List (MetadataAsset Uuid)) (rawText : String) (context : Context)
    (candidate : MetadataAsset Uuid) : Prop :=
  ∃ others, pool.Perm (candidate :: others) ∧
    isTypeCompatible engine.runtime candidate context.operator = true ∧
    highThreshold ≤ engine.overallScore rawText context candidate ∧
    ∀ other ∈ others, isTypeCompatible engine.runtime other context.operator = true →
      engine.overallScore rawText context other + scoreGapThreshold ≤
        engine.overallScore rawText context candidate

omit [DecidableEq Uuid] in
private theorem evaluateConfidence_settled {scored : List (ResolutionCandidate Uuid)}
    (settled : (evaluateConfidence scored).1 = false) :
    ∃ best rest, scored = best :: rest ∧ (evaluateConfidence scored).2 = some best ∧
      highThreshold ≤ best.overallScore ∧
        ∀ second ∈ rest.head?, second.overallScore + scoreGapThreshold ≤ best.overallScore := by
  cases scored with
  | nil => cases settled
  | cons best rest =>
    simp only [evaluateConfidence] at settled ⊢
    split_ifs at settled ⊢ with low close medium
    refine ⟨best, rest, rfl, rfl, not_lt.mp medium, fun second ahead => ?_⟩
    rw [ahead, Option.any_some, decide_eq_true_eq, not_lt] at close
    linarith

omit [DecidableEq Uuid] in
private theorem pairwise_ranked (scored : List (ResolutionCandidate Uuid)) :
    (ranked scored).Pairwise fun first second => second.overallScore ≤ first.overallScore := by
  refine (List.pairwise_mergeSort ?_ ?_ scored).imp fun le => of_decide_eq_true le
  · intro first second third before after
    exact decide_eq_true ((of_decide_eq_true after).trans (of_decide_eq_true before))
  · intro first second
    rw [Bool.or_eq_true, decide_eq_true_eq, decide_eq_true_eq]
    exact le_total _ _

omit [DecidableEq Uuid] in
private theorem ranked_settled {scored : List (ResolutionCandidate Uuid)}
    (settled : (evaluateConfidence ((ranked scored).take defaultTopK)).1 = false) :
    ∃ best rest, ranked scored = best :: rest ∧
      (evaluateConfidence ((ranked scored).take defaultTopK)).2 = some best ∧
      highThreshold ≤ best.overallScore ∧
        ∀ other ∈ rest, other.overallScore + scoreGapThreshold ≤ best.overallScore := by
  have sorted := pairwise_ranked scored
  obtain ⟨best, kept, first, chosen, high, gap⟩ := evaluateConfidence_settled settled
  cases whole : ranked scored with
  | nil => simp [whole] at first
  | cons head rest =>
    rw [whole] at sorted first chosen
    obtain ⟨rfl, rfl⟩ := List.cons.inj first
    refine ⟨head, rest, rfl, chosen, high, fun other listed => ?_⟩
    cases rest with
    | nil => cases listed
    | cons second rest =>
      have runnerUp := gap second rfl
      rcases List.mem_cons.mp listed with rfl | behind
      · exact runnerUp
      · have later := List.rel_of_pairwise_cons sorted.tail behind
        linarith

private theorem standsOut_of_settled {pool : List (MetadataAsset Uuid)} {rawText : String}
    {context : Context} {scored : List (ResolutionCandidate Uuid)}
    (given : scored = (pool.filter fun candidate =>
      isTypeCompatible engine.runtime candidate context.operator).map
        (engine.scoreCandidate rawText context))
    (settled : (evaluateConfidence ((ranked scored).take defaultTopK)).1 = false) :
    ∃ candidate ∈ pool, engine.StandsOut pool rawText context candidate ∧
      (evaluateConfidence ((ranked scored).take defaultTopK)).2 =
        some (engine.scoreCandidate rawText context candidate) := by
  obtain ⟨best, rest, whole, chosen, high, gap⟩ := ranked_settled settled
  have arranged : (best :: rest).Perm scored := whole ▸ List.mergeSort_perm scored _
  have listed : best ∈ scored := arranged.subset List.mem_cons_self
  rw [given] at listed
  obtain ⟨candidate, fitting, rfl⟩ := List.mem_map.mp listed
  obtain ⟨member, fits⟩ := List.mem_filter.mp fitting
  have parted := List.perm_cons_erase member
  refine ⟨candidate, member, ⟨pool.erase candidate, parted, fits, high, ?_⟩, chosen⟩
  intro other remains compatible
  have others : rest.Perm (((pool.erase candidate).filter fun candidate =>
      isTypeCompatible engine.runtime candidate context.operator).map
        (engine.scoreCandidate rawText context)) := by
    have filtered := (parted.filter fun candidate =>
      isTypeCompatible engine.runtime candidate context.operator).map
        (engine.scoreCandidate rawText context)
    rw [← given, List.filter_cons_of_pos (by exact fits), List.map_cons] at filtered
    exact (List.perm_cons _).mp (arranged.trans filtered)
  exact gap _ (others.symm.subset
    (List.mem_map.mpr ⟨other, List.mem_filter.mpr ⟨remains, compatible⟩, rfl⟩))

/-! ### What is written into the rule -/

variable (index : Index Uuid) (workspaceId : Uuid)

/-- The column is the name of a field of the workspace, under the id of that field. -/
def NamesField (entity : SIREntity) : Prop :=
  ∃ asset ∈ fieldAssets index workspaceId,
    entity.columnId = some (engine.uuidText asset.assetId) ∧
      entity.resolvedColumn = some asset.name

private theorem getCandidates_fields {rawText : String} {context : Context}
    {candidate : MetadataAsset Uuid}
    (found : candidate ∈ engine.getCandidates index workspaceId rawText context) :
    candidate ∈ fieldAssets index workspaceId := by
  unfold getCandidates searchAssets at found
  dsimp only at found
  split_ifs at found with blank
  · cases found
  · obtain ⟨entry, ranked, rfl⟩ := List.mem_map.mp found
    have listed := List.mem_mergeSort.mp (List.mem_of_mem_take ranked)
    rw [List.mem_filter] at listed
    obtain ⟨member, meets⟩ := listed
    simp only [Bool.and_eq_true, decide_eq_true_eq] at meets
    refine List.mem_filter.mpr ⟨List.mem_map_of_mem member, ?_⟩
    simp only [Bool.and_eq_true, decide_eq_true_eq]
    exact ⟨meets.1.1.1, meets.1.2⟩

/-- What is promised of the resolution of one entity. -/
structure SoundEntity (request : ResolveRequest) (entityKey : String) (entity : SIREntity)
    (resolution : EntityResolution Uuid) (resolved : SIREntity) : Prop where
  /-- What is written names a field. -/
  named : (chosen resolution).isSome = true → engine.NamesField index workspaceId resolved
  /-- What the user has not chosen stands out. -/
  standsOut : overrideOf request.selectedCandidates entityKey = none →
    resolution.requiresDisambiguation = false →
      ∃ candidate, engine.StandsOut
        (engine.getCandidates index workspaceId entity.rawText (buildContext request))
        entity.rawText (buildContext request) candidate ∧
      resolution.bestCandidate =
        some (engine.scoreCandidate entity.rawText (buildContext request) candidate)

structure Sound (request : ResolveRequest) (response : ResolveResponse Uuid) : Prop where
  subject : engine.SoundEntity index workspaceId request "subject" request.parsedRule.subject
    response.subjectResolution response.resolvedRule.subject
  object : ∀ entity ∈ request.parsedRule.object, ∃ resolution ∈ response.objectResolution,
    ∃ resolved ∈ response.resolvedRule.object,
      engine.SoundEntity index workspaceId request "object" entity resolution resolved

def entities (request : ResolveRequest) : List (String × SIREntity) :=
  ("subject", request.parsedRule.subject) :: (request.parsedRule.object.map ("object", ·)).toList

/-- The chosen id is that of a field of the workspace with the words of the rule for its name. -/
def NamedOverride (request : ResolveRequest) (entityKey rawText : String) : Prop :=
  ∀ text ∈ overrideOf request.selectedCandidates entityKey, ∀ id ∈ engine.uuid text,
    ∃ asset ∈ fieldAssets index workspaceId, asset.assetId = id ∧ asset.name = rawText

/-- When every chosen id is a UUID, it is that of a field with the words of the rule for its name. -/
def OverridesNamed (request : ResolveRequest) : Prop :=
  (∀ entity ∈ entities request, ∀ text ∈ overrideOf request.selectedCandidates entity.1,
    (engine.uuid text).isSome = true) →
  ∀ entity ∈ entities request,
    engine.NamedOverride index workspaceId request entity.1 entity.2.rawText

variable {index workspaceId}

section Entity

variable {request : ResolveRequest} {entityKey : String} {entity : SIREntity}
  {resolution : EntityResolution Uuid}

theorem resolveEntity_eq_ok {rawText : String} {context : Context}
    {overrides : Option (List (String × String))} :
    engine.resolveEntity index workspaceId rawText entityKey context overrides = .ok resolution ↔
      (overrideOf overrides entityKey = none ∧
          resolution = engine.poolResolution index workspaceId rawText context) ∨
        ∃ text id, overrideOf overrides entityKey = some text ∧ engine.uuid text = some id ∧
          resolution = overrideResolution rawText id := by
  unfold resolveEntity
  cases overrideOf overrides entityKey with
  | none => simp [eq_comm]
  | some text =>
    dsimp only
    cases parsed : engine.uuid text with
    | none => simp [parsed]
    | some id => simp [parsed, eq_comm]

private theorem soundEntity_pool :
    engine.SoundEntity index workspaceId request entityKey entity
      (engine.poolResolution index workspaceId entity.rawText (buildContext request))
      (engine.applyResolution entity
        (engine.poolResolution index workspaceId entity.rawText (buildContext request))) := by
  have settled (decided : (engine.poolResolution index workspaceId entity.rawText
      (buildContext request)).requiresDisambiguation = false) := engine.standsOut_of_settled rfl decided
  constructor
  · intro written
    have decided : (engine.poolResolution index workspaceId entity.rawText
        (buildContext request)).requiresDisambiguation = false := by
      by_contra asked
      rw [Bool.not_eq_false] at asked
      simp [chosen, asked] at written
    obtain ⟨candidate, member, -, best⟩ := settled decided
    have taken : chosen (engine.poolResolution index workspaceId entity.rawText
        (buildContext request)) =
          some (engine.scoreCandidate entity.rawText (buildContext request) candidate) := by
      simp only [chosen, decided]
      exact best
    refine ⟨candidate, engine.getCandidates_fields index workspaceId member, ?_, ?_⟩
    · simp only [applyResolution, taken]
      rfl
    · simp only [applyResolution, taken]
      rfl
  · intro _ decided
    obtain ⟨candidate, -, standsOut, best⟩ := settled decided
    exact ⟨candidate, standsOut, best⟩

private theorem soundEntity_override {text : String} {id : Uuid}
    (override : overrideOf request.selectedCandidates entityKey = some text)
    (parsed : engine.uuid text = some id) :
    engine.SoundEntity index workspaceId request entityKey entity
        (overrideResolution entity.rawText id)
        (engine.applyResolution entity (overrideResolution entity.rawText id)) ↔
      ∃ asset ∈ fieldAssets index workspaceId, asset.assetId = id ∧ asset.name = entity.rawText := by
  constructor
  · intro sound
    obtain ⟨asset, listed, sameId, sameName⟩ := sound.named rfl
    refine ⟨asset, listed, ?_, (Option.some.inj sameName).symm⟩
    have texts := congrArg engine.uuid (Option.some.inj sameId)
    rw [engine.uuid_uuidText, engine.uuid_uuidText] at texts
    exact (Option.some.inj texts).symm
  · rintro ⟨asset, listed, rfl, sameName⟩
    refine ⟨fun _ => ⟨asset, listed, rfl, congrArg some sameName.symm⟩, fun free _ => ?_⟩
    rw [override] at free
    cases free

private theorem soundEntity_iff
    (resolved : engine.resolveEntity index workspaceId entity.rawText entityKey
      (buildContext request) request.selectedCandidates = .ok resolution) :
    engine.SoundEntity index workspaceId request entityKey entity resolution
        (engine.applyResolution entity resolution) ↔
      engine.NamedOverride index workspaceId request entityKey entity.rawText := by
  rcases engine.resolveEntity_eq_ok.mp resolved with
    ⟨free, rfl⟩ | ⟨text, id, override, parsed, rfl⟩
  · refine iff_of_true engine.soundEntity_pool fun text given => ?_
    rw [free] at given
    cases given
  · rw [engine.soundEntity_override override parsed]
    constructor
    · intro named given same found read
      obtain rfl := Option.some.inj (override.symm.trans same)
      obtain rfl := Option.some.inj (parsed.symm.trans read)
      exact named
    · intro named
      exact named text override id parsed

private theorem resolveEntity_parses {rawText : String} {context : Context}
    {overrides : Option (List (String × String))}
    (resolved : engine.resolveEntity index workspaceId rawText entityKey context overrides =
      .ok resolution) : ∀ text ∈ overrideOf overrides entityKey, (engine.uuid text).isSome = true := by
  intro given same
  rcases engine.resolveEntity_eq_ok.mp resolved with ⟨free, -⟩ | ⟨text, id, override, parsed, -⟩
  · rw [free] at same
    cases same
  · obtain rfl := Option.some.inj (override.symm.trans same)
    exact Option.isSome_iff_exists.mpr ⟨id, parsed⟩

private theorem exists_resolveEntity {rawText entityKey : String} {context : Context}
    {overrides : Option (List (String × String))}
    (parses : ∀ text ∈ overrideOf overrides entityKey, (engine.uuid text).isSome = true) :
    ∃ resolution,
      engine.resolveEntity index workspaceId rawText entityKey context overrides = .ok resolution := by
  cases override : overrideOf overrides entityKey with
  | none => exact ⟨_, engine.resolveEntity_eq_ok.mpr (.inl ⟨override, rfl⟩)⟩
  | some text =>
    obtain ⟨id, parsed⟩ := Option.isSome_iff_exists.mp (parses text override)
    exact ⟨_, engine.resolveEntity_eq_ok.mpr (.inr ⟨text, id, override, parsed, rfl⟩)⟩

end Entity

private theorem resolve_eq_ok {request : ResolveRequest} {response : ResolveResponse Uuid}
    (responded : engine.resolve index workspaceId request = .ok response) :
    engine.resolveEntity index workspaceId request.parsedRule.subject.rawText "subject"
        (buildContext request) request.selectedCandidates = .ok response.subjectResolution ∧
      response.resolvedRule.subject =
        engine.applyResolution request.parsedRule.subject response.subjectResolution ∧
      ∀ object ∈ request.parsedRule.object, ∃ resolution,
        engine.resolveEntity index workspaceId object.rawText "object"
          (buildContext request) request.selectedCandidates = .ok resolution ∧
        response.objectResolution = some resolution ∧
        response.resolvedRule.object = some (engine.applyResolution object resolution) := by
  unfold resolve at responded
  obtain ⟨subjectResolution, subject, responded⟩ := bind_eq_ok responded
  obtain ⟨objectResolution, object, responded⟩ := bind_eq_ok responded
  obtain rfl := Except.ok.inj responded
  refine ⟨subject, rfl, fun entity given => ?_⟩
  rw [Option.mem_def.mp given] at object ⊢
  obtain ⟨resolution, resolved, kept⟩ := bind_eq_ok object
  obtain rfl := Except.ok.inj kept
  exact ⟨resolution, resolved, rfl, rfl⟩

private theorem exists_resolve {request : ResolveRequest}
    (parses : ∀ entity ∈ entities request,
      ∀ text ∈ overrideOf request.selectedCandidates entity.1, (engine.uuid text).isSome = true) :
    ∃ response, engine.resolve index workspaceId request = .ok response := by
  obtain ⟨subjectResolution, subject⟩ := engine.exists_resolveEntity (parses ("subject", _) List.mem_cons_self)
  have answered : ∃ objectResolution, (request.parsedRule.object.mapM fun object =>
      engine.resolveEntity index workspaceId object.rawText "object" (buildContext request)
        request.selectedCandidates) = .ok objectResolution := by
    cases given : request.parsedRule.object with
    | none => exact ⟨none, rfl⟩
    | some object =>
      obtain ⟨objectResolution, resolved⟩ := engine.exists_resolveEntity
        (parses ("object", object) (List.mem_cons_of_mem _ (by simp [given])))
      refine ⟨some objectResolution, ?_⟩
      rw [Option.mapM_some, resolved]
      rfl
  obtain ⟨objectResolution, object⟩ := answered
  unfold resolve
  dsimp only
  rw [subject, object]
  exact ⟨_, rfl⟩

/-- The engine is sound on a request exactly when the ids that its user has chosen are those of
fields with the words of the rule for their names, or one of them is no id. -/
theorem resolve_sound_iff (request : ResolveRequest) :
    (∀ response, engine.resolve index workspaceId request = .ok response →
      engine.Sound index workspaceId request response) ↔
    engine.OverridesNamed index workspaceId request := by
  constructor
  · intro sound parses entity listed
    obtain ⟨response, responded⟩ := engine.exists_resolve parses
    obtain ⟨subjectResolved, subjectApplied, object⟩ := engine.resolve_eq_ok responded
    have promised := sound response responded
    rcases List.mem_cons.mp listed with rfl | second
    · exact (engine.soundEntity_iff subjectResolved).mp (subjectApplied ▸ promised.subject)
    · obtain ⟨given, present, rfl⟩ := Option.map_eq_some_iff.mp (Option.mem_toList.mp second)
      obtain ⟨resolution, resolved, answered, applied⟩ := object given present
      obtain ⟨reported, isReported, written, isWritten, soundObject⟩ :=
        promised.object given present
      obtain rfl := Option.some.inj (answered.symm.trans isReported)
      obtain rfl := Option.some.inj (applied.symm.trans isWritten)
      exact (engine.soundEntity_iff resolved).mp soundObject
  · intro named response responded
    obtain ⟨subjectResolved, subjectApplied, object⟩ := engine.resolve_eq_ok responded
    have overrides := named (fun entity listed => by
      rcases List.mem_cons.mp listed with rfl | second
      · exact engine.resolveEntity_parses subjectResolved
      · obtain ⟨given, present, rfl⟩ := Option.map_eq_some_iff.mp (Option.mem_toList.mp second)
        obtain ⟨resolution, resolved, -⟩ := object given present
        exact engine.resolveEntity_parses resolved)
    constructor
    · rw [subjectApplied]
      exact (engine.soundEntity_iff subjectResolved).mpr (overrides _ List.mem_cons_self)
    · intro given present
      obtain ⟨resolution, resolved, answered, applied⟩ := object given present
      refine ⟨resolution, answered, _, applied, (engine.soundEntity_iff resolved).mpr ?_⟩
      exact overrides ("object", given) (List.mem_cons_of_mem _ (by
        rw [Option.mem_def.mp present]
        exact List.mem_cons_self))

/-- A rule on order amounts, whose user has chosen an id that the index does not have. -/
private def chosenElsewhere : ResolveRequest where
  parsedRule := ⟨⟨"amount", none, none, none, none⟩, none, none, none, none⟩
  datasetContext := none
  domainContext := none
  selectedCandidates := some [("subject", "unlisted")]

private def plainEngine : ResolutionEngine String where
  runtime := Runtime.ascii
  uuid := some
  uuidText id := id
  uuid_uuidText _ := rfl
  search := ⟨fun _ _ => false, fun _ _ => 0⟩
  signals := ⟨fun _ _ => false, fun _ _ _ _ => 0⟩
  weights := []
  weights_nonneg _ listed := nomatch listed

/-- The words of the rule become a column, and the id that comes with them is that of no field. -/
theorem chosen_id_not_checked :
    ∃ response, plainEngine.resolve ∅ "workspace" chosenElsewhere = .ok response ∧
      response.resolvedRule.subject.resolvedColumn = some "amount" ∧
      response.resolvedRule.subject.columnId = some "unlisted" ∧
      ¬ plainEngine.Sound ∅ "workspace" chosenElsewhere response := by
  refine ⟨_, rfl, rfl, rfl, fun sound => ?_⟩
  obtain ⟨asset, listed, -⟩ := sound.subject.named rfl
  cases listed

end ResolutionEngine

end CogniDQ.Resolution
