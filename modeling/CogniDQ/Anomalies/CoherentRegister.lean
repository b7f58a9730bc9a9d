import CogniDQ.Anomalies.PersistedAnomalies

/-!
# When the register is coherent

A run keeps the register free of duplicates if its anomalies have different fingerprints and each
finds a row of its own rule; a transition keeps it if no resolved row is acknowledged.
-/

set_option autoImplicit false

namespace CogniDQ.Anomalies

open CogniDQ.Database CogniDQ.Protocol

variable {Uuid : Type} [DecidableEq Uuid] {str : Uuid → String} {sha1 : String → String}
  {register session : AnomalyRows Uuid} {workspaceId tenantId : Uuid} {now : Int}

/-- No duplicates among the active rows, one rule for each row, and a time of resolution for those
that are resolved or suppressed. -/
structure Coherent (register : AnomalyRows Uuid) : Prop where
  spaced : ∀ first second row other, register.lookup first = some row →
    register.lookup second = some other → first ≠ second → row.isActive = true →
      other.isActive = true → row.fingerprint = other.fingerprint →
        row.detectedAt ≤ other.detectedAt → row.detectedAt + dedupWindow ≤ other.detectedAt
  ofOneRule : ∀ id row, register.lookup id = some row →
    ∀ rule ∈ row.writtenFor, ∀ other ∈ row.writtenFor, rule = other
  resolvedAt : ∀ id row, register.lookup id = some row →
    (row.resolvedAt.isSome ↔ row.status = .resolved ∨ row.status = .suppressed)

/-- An entry that no other one that the search selects is newer than. -/
def IsLatest (register : AnomalyRows Uuid) (workspaceId : Uuid) (now : Int) (print : String)
    (entry : Sigma fun _ : Uuid => DetectedAnomaly Uuid) : Prop :=
  matching workspaceId now print entry.2 = true ∧
    ∀ other ∈ register.entries, matching workspaceId now print other.2 = true →
      other.2.detectedAt ≤ entry.2.detectedAt

instance (register : AnomalyRows Uuid) (workspaceId : Uuid) (now : Int) (print : String)
    (entry : Sigma fun _ : Uuid => DetectedAnomaly Uuid) :
    Decidable (IsLatest register workspaceId now print entry) :=
  inferInstanceAs (Decidable (_ ∧ _))

/-- The rows with the fingerprint of an anomaly are of the workspace, and the one that the search
finds was written for the same rule. -/
def Fits (register : AnomalyRows Uuid) (workspaceId : Uuid) (now : Int) (print : String)
    (anomaly : Anomaly Uuid) : Prop :=
  ∀ entry ∈ register.entries,
    (entry.2.fingerprint = print → entry.2.workspaceId = workspaceId) ∧
      (IsLatest register workspaceId now print entry →
        ∀ rule ∈ anomaly.rule.toList, ∀ other ∈ entry.2.writtenFor, other = rule)

instance (register : AnomalyRows Uuid) (workspaceId : Uuid) (now : Int) (print : String)
    (anomaly : Anomaly Uuid) : Decidable (Fits register workspaceId now print anomaly) :=
  inferInstanceAs (Decidable (∀ entry ∈ register.entries, _ ∧ _))

section Search

variable {order : NewestFirst Uuid} {print : String}

private theorem existing_eq_some {id : Uuid}
    (found : existing register order workspaceId now print = some id) :
    ∃ row, register.lookup id = some row ∧
      IsLatest register workspaceId now print ⟨id, row⟩ := by
  obtain ⟨entry, first, rfl⟩ := Option.map_eq_some_iff.mp found
  obtain ⟨rest, arranged⟩ := List.head?_eq_some_iff.mp first
  let selected := register.entries.filter fun entry => matching workspaceId now print entry.2
  have listed : ∀ other, other ∈ order.arrange selected ↔ other ∈ selected :=
    fun _ => (order.perm selected).mem_iff
  have chosen := List.mem_filter.mp ((listed entry).mp (arranged ▸ List.mem_cons_self))
  refine ⟨entry.2, AList.mem_lookup_iff.mpr chosen.1, chosen.2, ?_⟩
  intro other present matched
  have sorted := order.ascending selected
  have inOrder := (listed other).mpr (List.mem_filter.mpr ⟨present, matched⟩)
  unfold selected at sorted inOrder
  rw [arranged] at sorted inOrder
  rcases List.mem_cons.mp inOrder with rfl | later
  · exact le_rfl
  · have before := List.rel_of_pairwise_cons sorted later
    exact Int.neg_le_neg_iff.mp before

private theorem existing_eq_none (missing : existing register order workspaceId now print = none)
    {id : Uuid} {row : DetectedAnomaly Uuid} (found : register.lookup id = some row) :
    matching workspaceId now print row = false := by
  have empty := List.head?_eq_none_iff.mp (Option.map_eq_none_iff.mp missing)
  by_contra matched
  have selected : (⟨id, row⟩ : Sigma fun _ : Uuid => DetectedAnomaly Uuid) ∈
      register.entries.filter fun entry => matching workspaceId now print entry.2 :=
    List.mem_filter.mpr ⟨AList.mem_lookup_iff.mp found, Bool.not_eq_false _ ▸ matched⟩
  have inOrder := (order.perm _).mem_iff.mpr selected
  rw [empty] at inOrder
  cases inOrder

end Search

section Loop

/-- The session of a run before the remaining anomalies: it is coherent, and no row with one of
their fingerprints has been touched. -/
structure Session (str : Uuid → String) (sha1 : String → String) (register session : AnomalyRows Uuid)
    (workspaceId : Uuid) (now : Int) (remaining : List (Detection Uuid)) : Prop where
  coherent : Coherent session
  past : ∀ id row, session.lookup id = some row → row.detectedAt ≤ now
  untouched : ∀ detection ∈ remaining, ∀ id row,
    row.fingerprint = fingerprint str sha1 workspaceId detection.anomaly →
      (session.lookup id = some row ↔ register.lookup id = some row)

theorem matching_iff {print : String} {row : DetectedAnomaly Uuid} :
    matching workspaceId now print row = true ↔
      row.workspaceId = workspaceId ∧ row.fingerprint = print ∧ row.isActive = true ∧
        now - dedupWindow ≤ row.detectedAt := by
  unfold matching
  simp only [Bool.and_eq_true, decide_eq_true_eq, beq_iff_eq, and_assoc]

variable {detection : Detection Uuid} {rest : List (Detection Uuid)} {next : AnomalyRows Uuid}

theorem Session.older {id : Uuid} {row : DetectedAnomaly Uuid}
    (loop : Session str sha1 register session workspaceId now (detection :: rest))
    (fits : Fits register workspaceId now
      (fingerprint str sha1 workspaceId detection.anomaly) detection.anomaly)
    (found : session.lookup id = some row) (active : row.isActive = true)
    (same : row.fingerprint = fingerprint str sha1 workspaceId detection.anomaly)
    (unmatched : matching workspaceId now
      (fingerprint str sha1 workspaceId detection.anomaly) row = false) :
    row.detectedAt + dedupWindow ≤ now := by
  have registered := (loop.untouched detection List.mem_cons_self id row same).mp found
  have own := (fits ⟨id, row⟩ (AList.mem_lookup_iff.mp registered)).1 same
  by_contra recent
  have inWindow : now - dedupWindow ≤ row.detectedAt := by omega
  have matched := matching_iff.mpr ⟨own, same, active, inWindow⟩
  rw [unmatched] at matched
  cases matched

private theorem Session.insert
    (loop : Session str sha1 register session workspaceId now (detection :: rest))
    (fits : Fits register workspaceId now
      (fingerprint str sha1 workspaceId detection.anomaly) detection.anomaly)
    (distinct : fingerprint str sha1 workspaceId detection.anomaly ∉
      rest.map fun later => fingerprint str sha1 workspaceId later.anomaly)
    (missing : existing register detection.order workspaceId now
      (fingerprint str sha1 workspaceId detection.anomaly) = none)
    (fresh : session.lookup detection.newId = none) :
    Session str sha1 register (AList.insert detection.newId
      (newAnomaly str sha1 workspaceId tenantId now detection.anomaly) session) workspaceId now
        rest := by
  have added : ∀ id row, AList.lookup id (AList.insert detection.newId
      (newAnomaly str sha1 workspaceId tenantId now detection.anomaly) session) = some row →
        (id = detection.newId ∧
          row = newAnomaly str sha1 workspaceId tenantId now detection.anomaly) ∨
        id ≠ detection.newId ∧ session.lookup id = some row :=
    fun _ _ found => Rows.lookup_insert_cases found
  have behind : ∀ id row, session.lookup id = some row → row.isActive = true →
      row.fingerprint = fingerprint str sha1 workspaceId detection.anomaly →
        row.detectedAt + dedupWindow ≤ now := by
    intro id row found active same
    have registered := (loop.untouched detection List.mem_cons_self id row same).mp found
    exact loop.older fits found active same (existing_eq_none missing registered)
  constructor
  · constructor
    · intro first second row other found foundOther apart active activeOther same before
      rcases added first row found with ⟨rfl, rfl⟩ | ⟨-, kept⟩
      · rcases added second other foundOther with ⟨rfl, -⟩ | ⟨-, keptOther⟩
        · exact absurd rfl apart
        · have late := behind second other keptOther activeOther same.symm
          have window : (0 : Int) < dedupWindow := by decide
          exact absurd (before.trans_lt (by omega)) (lt_irrefl now)
      · rcases added second other foundOther with ⟨rfl, rfl⟩ | ⟨-, keptOther⟩
        · exact behind first row kept active same
        · exact loop.coherent.spaced first second row other kept keptOther apart active activeOther
            same before
    · intro id row found
      rcases added id row found with ⟨-, rfl⟩ | ⟨-, kept⟩
      · intro rule listed other listedOther
        have one : ∀ rule ∈ detection.anomaly.rule.toList, detection.anomaly.rule = some rule :=
          fun rule listed => Option.mem_toList.mp listed
        exact Option.some.inj ((one rule listed).symm.trans (one other listedOther))
      · exact loop.coherent.ofOneRule id row kept
    · intro id row found
      rcases added id row found with ⟨-, rfl⟩ | ⟨-, kept⟩
      · unfold newAnomaly
        simp
      · exact loop.coherent.resolvedAt id row kept
  · intro id row found
    rcases added id row found with ⟨-, rfl⟩ | ⟨-, kept⟩
    · exact le_rfl
    · exact loop.past id row kept
  · intro later listed id row same
    rw [← loop.untouched later (List.mem_cons_of_mem _ listed) id row same]
    have other : row.fingerprint ≠ fingerprint str sha1 workspaceId detection.anomaly := by
      intro equal
      exact distinct (List.mem_map.mpr ⟨later, listed, same.symm.trans equal⟩)
    constructor
    · intro found
      rcases added id row found with ⟨-, rfl⟩ | ⟨-, kept⟩
      · exact absurd rfl other
      · exact kept
    · intro found
      have different : id ≠ detection.newId := by
        intro equal
        rw [equal, fresh] at found
        cases found
      rw [AList.lookup_insert_ne different]
      exact found

private theorem Session.refresh {id : Uuid}
    (loop : Session str sha1 register session workspaceId now (detection :: rest))
    (fits : Fits register workspaceId now
      (fingerprint str sha1 workspaceId detection.anomaly) detection.anomaly)
    (distinct : fingerprint str sha1 workspaceId detection.anomaly ∉
      rest.map fun later => fingerprint str sha1 workspaceId later.anomaly)
    (found : existing register detection.order workspaceId now
      (fingerprint str sha1 workspaceId detection.anomaly) = some id) :
    Session str sha1 register (session.modify id fun row => row.refresh now detection.anomaly)
      workspaceId now rest := by
  obtain ⟨row, registered, latest⟩ := existing_eq_some found
  obtain ⟨-, print, active, -⟩ := matching_iff.mp latest.1
  have current := (loop.untouched detection List.mem_cons_self id row print).mpr registered
  have changed : ∀ other otherRow, (session.modify id fun row =>
      row.refresh now detection.anomaly).lookup other = some otherRow →
        (other = id ∧ otherRow = row.refresh now detection.anomaly) ∨
          other ≠ id ∧ session.lookup other = some otherRow := by
    intro other otherRow foundOther
    rw [Rows.lookup_modify] at foundOther
    split at foundOther
    · next same =>
      rw [same, current] at foundOther
      exact .inl ⟨same, (Option.some.inj foundOther).symm⟩
    · next different => exact .inr ⟨different, foundOther⟩
  have behind : ∀ other otherRow, other ≠ id → session.lookup other = some otherRow →
      otherRow.isActive = true →
        otherRow.fingerprint = fingerprint str sha1 workspaceId detection.anomaly →
          otherRow.detectedAt + dedupWindow ≤ now := by
    intro other otherRow apart foundOther activeOther same
    have registeredOther :=
      (loop.untouched detection List.mem_cons_self other otherRow same).mp foundOther
    cases matched : matching workspaceId now
        (fingerprint str sha1 workspaceId detection.anomaly) otherRow with
    | false => exact loop.older fits foundOther activeOther same matched
    | true =>
      have before := latest.2 ⟨other, otherRow⟩ (AList.mem_lookup_iff.mp registeredOther) matched
      exact (loop.coherent.spaced other id otherRow row foundOther current apart activeOther active
        (same.trans print.symm) before).trans (loop.past id row current)
  constructor
  · constructor
    · intro first second firstRow secondRow foundFirst foundSecond apart activeFirst activeSecond
        same before
      rcases changed first firstRow foundFirst with ⟨rfl, rfl⟩ | ⟨other, kept⟩
      · rcases changed second secondRow foundSecond with ⟨rfl, -⟩ | ⟨otherSecond, keptSecond⟩
        · exact absurd rfl apart
        · have late := behind second secondRow otherSecond keptSecond activeSecond
            (same.symm.trans print)
          have window : (0 : Int) < dedupWindow := by decide
          exact absurd (before.trans_lt (by omega)) (lt_irrefl now)
      · rcases changed second secondRow foundSecond with ⟨rfl, rfl⟩ | ⟨-, keptSecond⟩
        · exact behind first firstRow other kept activeFirst (same.trans print)
        · exact loop.coherent.spaced first second firstRow secondRow kept keptSecond apart
            activeFirst activeSecond same before
    · intro other otherRow foundOther
      rcases changed other otherRow foundOther with ⟨-, rfl⟩ | ⟨-, kept⟩
      · have ofRow := loop.coherent.ofOneRule id row current
        have agrees := (fits ⟨id, row⟩ (AList.mem_lookup_iff.mp registered)).2 latest
        intro rule listed another listedAnother
        rcases List.mem_append.mp listed with old | new
        · rcases List.mem_append.mp listedAnother with oldAnother | newAnother
          · exact ofRow rule old another oldAnother
          · exact agrees another newAnother rule old
        · rcases List.mem_append.mp listedAnother with oldAnother | newAnother
          · exact (agrees rule new another oldAnother).symm
          · exact Option.some.inj
              ((Option.mem_toList.mp new).symm.trans (Option.mem_toList.mp newAnother))
      · exact loop.coherent.ofOneRule other otherRow kept
    · intro other otherRow foundOther
      rcases changed other otherRow foundOther with ⟨-, rfl⟩ | ⟨-, kept⟩
      · exact loop.coherent.resolvedAt id row current
      · exact loop.coherent.resolvedAt other otherRow kept
  · intro other otherRow foundOther
    rcases changed other otherRow foundOther with ⟨-, rfl⟩ | ⟨-, kept⟩
    · exact le_rfl
    · exact loop.past other otherRow kept
  · intro later listed other otherRow same
    rw [← loop.untouched later (List.mem_cons_of_mem _ listed) other otherRow same]
    have apart : otherRow.fingerprint ≠ fingerprint str sha1 workspaceId detection.anomaly := by
      intro equal
      exact distinct (List.mem_map.mpr ⟨later, listed, same.symm.trans equal⟩)
    constructor
    · intro foundOther
      rcases changed other otherRow foundOther with ⟨-, rfl⟩ | ⟨-, kept⟩
      · exact absurd print apart
      · exact kept
    · intro foundOther
      have different : other ≠ id := by
        rintro rfl
        rw [current] at foundOther
        exact apart (Option.some.inj foundOther ▸ print)
      rw [Rows.lookup_modify, if_neg different]
      exact foundOther

private theorem Session.persist
    (loop : Session str sha1 register session workspaceId now (detection :: rest))
    (fits : Fits register workspaceId now
      (fingerprint str sha1 workspaceId detection.anomaly) detection.anomaly)
    (distinct : fingerprint str sha1 workspaceId detection.anomaly ∉
      rest.map fun later => fingerprint str sha1 workspaceId later.anomaly)
    (persisted : persist str sha1 register workspaceId tenantId now session detection = some next) :
    Session str sha1 register next workspaceId now rest := by
  unfold Anomalies.persist at persisted
  split at persisted
  · next id found =>
    cases persisted
    exact loop.refresh fits distinct found
  · next missing =>
    split at persisted
    · cases persisted
    · next fresh =>
      cases persisted
      exact loop.insert fits distinct missing (Option.not_isSome_iff_eq_none.mp fresh)

private theorem Session.run {detected : List (Detection Uuid)} {final : AnomalyRows Uuid}
    (loop : Session str sha1 register session workspaceId now detected)
    (distinct : (detected.map fun detection =>
      fingerprint str sha1 workspaceId detection.anomaly).Nodup)
    (fits : ∀ detection ∈ detected, Fits register workspaceId now
      (fingerprint str sha1 workspaceId detection.anomaly) detection.anomaly)
    (ran : detected.foldlM (Anomalies.persist str sha1 register workspaceId tenantId now) session =
      some final) :
    Session str sha1 register final workspaceId now [] := by
  induction detected generalizing session with
  | nil =>
    cases ran
    exact loop
  | cons detection rest ih =>
    rw [List.foldlM_cons] at ran
    obtain ⟨next, persisted, continued⟩ := Option.bind_eq_some_iff.mp ran
    obtain ⟨fresh, distinctRest⟩ := List.nodup_cons.mp distinct
    exact ih (loop.persist (fits detection List.mem_cons_self) fresh persisted) distinctRest
      (fun later listed => fits later (List.mem_cons_of_mem _ listed)) continued

end Loop

section Transitions

/-- A transition changes neither what was detected nor when. -/
structure Keeps (row changed : DetectedAnomaly Uuid) : Prop where
  detectedAt : changed.detectedAt = row.detectedAt
  fingerprint : changed.fingerprint = row.fingerprint
  writtenFor : changed.writtenFor = row.writtenFor
  active : changed.isActive = true → row.isActive = true
  resolvedAt : (row.resolvedAt.isSome ↔ row.status = .resolved ∨ row.status = .suppressed) →
    (changed.resolvedAt.isSome ↔ changed.status = .resolved ∨ changed.status = .suppressed)

omit [DecidableEq Uuid] in
private theorem Keeps.refl (row : DetectedAnomaly Uuid) : Keeps row row :=
  ⟨rfl, rfl, rfl, id, id⟩

omit [DecidableEq Uuid] in
theorem keeps_acknowledge {row : DetectedAnomaly Uuid} (actorId : Uuid) (notes : Option String)
    (active : row.isActive = true) : Keeps row (acknowledge now actorId notes row) where
  detectedAt := rfl
  fingerprint := rfl
  writtenFor := rfl
  active _ := active
  resolvedAt coherent := by
    unfold DetectedAnomaly.isActive at active
    unfold acknowledge
    cases status : row.status <;> simp_all

omit [DecidableEq Uuid] in
theorem keeps_resolve (row : DetectedAnomaly Uuid) (actorId : Uuid) (notes : Option String) :
    Keeps row (resolve now actorId notes row) where
  detectedAt := rfl
  fingerprint := rfl
  writtenFor := rfl
  active closed := by
    unfold DetectedAnomaly.isActive resolve at closed
    simp at closed
  resolvedAt _ := by
    unfold resolve
    simp

omit [DecidableEq Uuid] in
theorem keeps_suppress (row : DetectedAnomaly Uuid) (actorId : Uuid) (notes : Option String) :
    Keeps row (suppress now actorId notes row) where
  detectedAt := rfl
  fingerprint := rfl
  writtenFor := rfl
  active closed := by
    unfold DetectedAnomaly.isActive suppress at closed
    simp at closed
  resolvedAt _ := by
    unfold suppress
    simp

variable {anomalyId : Uuid} {change : DetectedAnomaly Uuid → DetectedAnomaly Uuid}

theorem lookup_transition {id : Uuid} {changed : DetectedAnomaly Uuid}
    (keeps : ∀ row, register.lookup anomalyId = some row → row.workspaceId = workspaceId →
      Keeps row (change row))
    (found : (transition register workspaceId anomalyId change).lookup id = some changed) :
    ∃ row, register.lookup id = some row ∧ Keeps row changed := by
  unfold transition at found
  rw [Rows.lookup_modify] at found
  split at found
  · next same =>
    obtain ⟨row, registered, rfl⟩ := Option.map_eq_some_iff.mp found
    refine ⟨row, registered, ?_⟩
    split
    · next own => exact keeps row (same ▸ registered) own
    · exact .refl row
  · exact ⟨changed, found, .refl changed⟩

private theorem Coherent.transition (coherent : Coherent register)
    (keeps : ∀ row, register.lookup anomalyId = some row → row.workspaceId = workspaceId →
      Keeps row (change row)) :
    Coherent (transition register workspaceId anomalyId change) := by
  constructor
  · intro first second changed changedOther found foundOther apart active activeOther same before
    obtain ⟨row, registered, kept⟩ := lookup_transition keeps found
    obtain ⟨other, registeredOther, keptOther⟩ := lookup_transition keeps foundOther
    rw [kept.detectedAt, keptOther.detectedAt] at before ⊢
    rw [kept.fingerprint, keptOther.fingerprint] at same
    exact coherent.spaced first second row other registered registeredOther apart
      (kept.active active) (keptOther.active activeOther) same before
  · intro id changed found
    obtain ⟨row, registered, kept⟩ := lookup_transition keeps found
    rw [kept.writtenFor]
    exact coherent.ofOneRule id row registered
  · intro id changed found
    obtain ⟨row, registered, kept⟩ := lookup_transition keeps found
    exact kept.resolvedAt (coherent.resolvedAt id row registered)

end Transitions

section Runs

/-- The condition on a call that commits. The anomalies of a run have different fingerprints and
fit what is registered, and what is acknowledged is neither resolved nor suppressed. -/
def Orderly (str : Uuid → String) (sha1 : String → String) (state : State Uuid)
    (action : Action Uuid) : Prop :=
  action.commits = true →
    match action.call with
    | .detect _ detected =>
      (detected.map fun detection =>
        fingerprint str sha1 action.workspaceId detection.anomaly).Nodup ∧
        ∀ detection ∈ detected, Fits state.register action.workspaceId action.now
          (fingerprint str sha1 action.workspaceId detection.anomaly) detection.anomaly
    | .acknowledge anomalyId _ _ =>
      ∀ row ∈ (state.register.lookup anomalyId).toList,
        row.workspaceId = action.workspaceId → row.isActive = true
    | _ => True

instance (state : State Uuid) (action : Action Uuid) : Decidable (Orderly str sha1 state action) := by
  obtain ⟨now, workspaceId, call, commits⟩ := action
  unfold Orderly
  cases call <;> infer_instance

/-- The register is coherent, and nothing was detected later than now. -/
structure State.Sound (state : State Uuid) : Prop where
  coherent : Coherent state.register
  past : ∀ id row, state.register.lookup id = some row → row.detectedAt ≤ state.clock

variable {state next : State Uuid} {action : Action Uuid}

private theorem State.Sound.perform {registered : AnomalyRows Uuid} (sound : state.Sound)
    (later : state.clock < action.now) (commits : action.commits = true)
    (orderly : Orderly str sha1 state action)
    (performed : perform str sha1 state.register action.workspaceId action.now action.call =
      some registered) :
    Coherent registered ∧ ∀ id row, registered.lookup id = some row →
      row.detectedAt ≤ action.now := by
  have past : ∀ id row, state.register.lookup id = some row → row.detectedAt ≤ action.now :=
    fun id row found => (sound.past id row found).trans later.le
  have condition := orderly commits
  have transitioned : ∀ {anomalyId : Uuid} {change : DetectedAnomaly Uuid → DetectedAnomaly Uuid},
      (∀ row, state.register.lookup anomalyId = some row → row.workspaceId = action.workspaceId →
        Keeps row (change row)) →
      Coherent (transition state.register action.workspaceId anomalyId change) ∧
        ∀ id row, (transition state.register action.workspaceId anomalyId change).lookup id =
          some row → row.detectedAt ≤ action.now := by
    intro anomalyId change keeps
    refine ⟨sound.coherent.transition keeps, fun id row found => ?_⟩
    obtain ⟨before, foundBefore, kept⟩ := lookup_transition keeps found
    exact kept.detectedAt.trans_le (past id before foundBefore)
  cases called : action.call with
  | detect tenantId detected =>
    rw [called] at condition performed
    have start : Session str sha1 state.register state.register action.workspaceId action.now
        detected := ⟨sound.coherent, past, fun _ _ _ _ _ => Iff.rfl⟩
    have ended := start.run condition.1 condition.2 performed
    exact ⟨ended.coherent, ended.past⟩
  | acknowledge anomalyId actorId notes =>
    rw [called] at condition performed
    cases performed
    exact transitioned fun row found own =>
      keeps_acknowledge actorId notes (condition row (Option.mem_toList.mpr found) own)
  | resolve anomalyId actorId notes =>
    rw [called] at performed
    cases performed
    exact transitioned fun row _ _ => keeps_resolve row actorId notes
  | suppress anomalyId actorId notes =>
    rw [called] at performed
    cases performed
    exact transitioned fun row _ _ => keeps_suppress row actorId notes

private theorem State.Sound.step (sound : state.Sound) (orderly : Orderly str sha1 state action)
    (stepped : step str sha1 state action = some next) : next.Sound := by
  unfold Anomalies.step at stepped
  split at stepped
  · next later =>
    cases stepped
    have unchanged : ∀ id row, state.register.lookup id = some row →
        row.detectedAt ≤ action.now := fun id row found => (sound.past id row found).trans later.le
    cases performed : Anomalies.perform str sha1 state.register action.workspaceId action.now
        action.call with
    | none => exact ⟨sound.coherent, unchanged⟩
    | some registered =>
      cases commits : action.commits with
      | false => exact ⟨sound.coherent, unchanged⟩
      | true =>
        obtain ⟨coherent, past⟩ := sound.perform later commits orderly performed
        exact ⟨coherent, past⟩
  · cases stepped

/-- From the empty register, whatever calls are made at increasing times, the register stays
coherent while the calls are orderly. -/
theorem register_coherent {clock : Int} {actions : List (Action Uuid)} {final : State Uuid}
    (orderly : RunMeets (step str sha1) (Orderly str sha1) (.empty clock) actions)
    (ran : run (step str sha1) (.empty clock) actions = some final) :
    Coherent final.register := by
  have preserved : ∀ state action next, State.Sound state → Orderly str sha1 state action →
      step str sha1 state action = some next → State.Sound next :=
    fun _ _ _ sound orderly stepped => sound.step orderly stepped
  have nothing : ∀ id row, (∅ : AnomalyRows Uuid).lookup id ≠ some row := by
    intro id row found
    rw [AList.lookup_empty] at found
    cases found
  have begun : State.Sound (State.empty clock : State Uuid) := by
    constructor
    · constructor
      · exact fun first _ row _ found => absurd found (nothing first row)
      · exact fun id row found => absurd found (nothing id row)
      · exact fun id row found => absurd found (nothing id row)
    · exact fun id row found => absurd found (nothing id row)
  exact (run_preserves preserved begun orderly ran).coherent

end Runs

section Examples

private def unary (id : Nat) : String := String.ofList (List.replicate id '1')

private def drop (rule : Nat) : Anomaly Nat where
  dataset := "orders"
  column := "amount"
  anomaly := "Pass rate drop"
  anomalyType := "pass_rate_drop"
  severity := "High"
  currentValue := "60.0%"
  expectedValue := "~95.0%"
  deviation := "3.1"
  rule := some rule

private def hour (count : Int) : Int := count * 3600 * 1000000

private def detection (rule newId : Nat) : Detection Nat := ⟨drop rule, newId, .stable _⟩

private def called (hours : Int) (call : Call Nat) : Action Nat := ⟨hour hours, 7, call, true⟩

private def orderlyCalls : List (Action Nat) :=
  [called 1 (.detect 3 [detection 1 100]), called 2 (.detect 3 [detection 1 101]),
    called 3 (.acknowledge 100 5 none), called 4 (.resolve 100 5 (some "Fixed."))]

/-- The anomaly of one rule is found twice, acknowledged and resolved. -/
theorem orderly_register_coherent :
    ∃ final, run (step unary id) (.empty 0) orderlyCalls = some final ∧
      Coherent final.register := by
  have ran : ∃ final, run (step unary id) (.empty 0) orderlyCalls = some final := ⟨_, rfl⟩
  obtain ⟨final, ran⟩ := ran
  refine ⟨final, ran, register_coherent ?_ ran⟩
  decide +kernel

/-- Two rules for one column have one fingerprint: in one run they are two rows, in two runs they
share a row. And a resolved anomaly that is acknowledged keeps the time of its resolution. -/
theorem incoherent_registers :
    (∃ final, run (step unary id) (.empty 0)
        [called 1 (.detect 3 [detection 1 100, detection 2 101])] = some final ∧
      ¬Coherent final.register) ∧
    (∃ final, run (step unary id) (.empty 0)
        [called 1 (.detect 3 [detection 1 100]), called 2 (.detect 3 [detection 2 101])] =
          some final ∧
      ¬Coherent final.register) ∧
    ∃ final, run (step unary id) (.empty 0)
        [called 1 (.detect 3 [detection 1 100]), called 2 (.resolve 100 5 none),
          called 3 (.acknowledge 100 5 none)] = some final ∧
      ¬Coherent final.register := by
  refine ⟨⟨_, rfl, fun coherent => ?_⟩, ⟨_, rfl, fun coherent => ?_⟩, _, rfl, fun coherent => ?_⟩
  · exact absurd (coherent.spaced 100 101 _ _ rfl rfl (by decide) rfl rfl rfl le_rfl) (by decide)
  · exact absurd (coherent.ofOneRule 100 _ rfl 1 (by decide) 2 (by decide)) (by decide)
  · exact absurd ((coherent.resolvedAt 100 _ rfl).mp rfl) (by decide)

end Examples

end CogniDQ.Anomalies
