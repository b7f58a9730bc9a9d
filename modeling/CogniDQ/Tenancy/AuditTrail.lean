import CogniDQ.Tenancy.RowLocks

/-!
# The audit trail of a workspace

Every committed change of a workspace comes with its audit entry, and the entries of a workspace add
up to its row, as long as the updates are made by the user who wrote the row last and supply changed
fields only, and no status change of a tenant takes a workspace with it.
-/

set_option autoImplicit false

namespace CogniDQ.Tenancy

open CogniDQ.Database CogniDQ.Protocol

section Entries

variable {Uuid : Type}

def Column.audited : Column → Bool
  | .workspaceName => true
  | .workspaceSlug => true
  | .description => true
  | .defaultTimezone => true
  | .status => true
  | .statusReason => true
  | _ => false

/-- A reason is cleared when a workspace gets active, and required when it is archived. -/
def Workspace.Reasoned (row : Workspace Uuid) : Prop :=
  (row.status = .active → row.statusReason = none) ∧
    (row.status = .archived → row.statusReason ≠ none)

variable [DecidableEq Uuid]

def Workspace.differs (workspaceId : Uuid) (before after : Workspace Uuid) (column : Column) : Bool :=
  column.audited && before.cell workspaceId column != after.cell workspaceId column

/-- The two states of an entry are the changed fields with their old and new values; for a new
workspace, all its fields. -/
def AuditEntry.Describes (entry : AuditEntry Uuid) (workspaceId : Uuid) (after : Workspace Uuid) :
    Option (Workspace Uuid) → Prop
  | none => entry.beforeState = none ∧
      ∀ column, entry.afterState.lookup column = some (after.cell workspaceId column)
  | some before => ∃ state, entry.beforeState = some state ∧ ∀ column,
      state.lookup column = (if before.differs workspaceId after column then
        some (before.cell workspaceId column) else none) ∧
      entry.afterState.lookup column = (if before.differs workspaceId after column then
        some (after.cell workspaceId column) else none)

def nextVersion : Option (Workspace Uuid) → Nat
  | none => 0
  | some row => row.version + 1

/-- The entry of a change is about its rows, which carry the next version and the actor. -/
structure Change.Faithful (change : Change Uuid) : Prop where
  workspace : change.entry.workspaceId = change.workspaceId
  version : change.after.version = nextVersion change.before
  updatedBy : change.after.updatedBy = change.entry.actorId
  describes : change.entry.Describes change.workspaceId change.after change.before
  reasoned : change.after.Reasoned

def replay (entries : List (AuditEntry Uuid)) (column : Column) : Option (Cell Uuid) :=
  entries.foldl (fun value entry => (entry.afterState.lookup column).or value) none

def entriesOf (audit : List (AuditEntry Uuid)) (workspaceId : Uuid) : List (AuditEntry Uuid) :=
  audit.filter fun entry => decide (entry.workspaceId = workspaceId)

def Replays (rows : Rows Uuid (Workspace Uuid)) (audit : List (AuditEntry Uuid)) : Prop :=
  ∀ workspaceId row, rows.lookup workspaceId = some row → ∀ column, column.audited = true →
    replay (entriesOf audit workspaceId) column = some (row.cell workspaceId column)

variable {workspaceId tenantId : Uuid} {actor : Actor Uuid} {row before after : Workspace Uuid}
  {now : Int} {column : Column}

omit [DecidableEq Uuid] in
private theorem replay_append (entries : List (AuditEntry Uuid)) (entry : AuditEntry Uuid)
    (column : Column) : replay (entries ++ [entry]) column =
      (entry.afterState.lookup column).or (replay entries column) := by
  unfold replay
  rw [List.foldl_append]
  rfl

theorem entriesOf_append (audit : List (AuditEntry Uuid)) (entry : AuditEntry Uuid)
    (workspaceId : Uuid) : entriesOf (audit ++ [entry]) workspaceId =
      if entry.workspaceId = workspaceId then entriesOf audit workspaceId ++ [entry]
      else entriesOf audit workspaceId := by
  unfold entriesOf
  rw [List.filter_append]
  split_ifs with same
  · simp only [List.filter_cons, List.filter_nil, same, decide_true, if_true]
  · simp only [List.filter_cons, List.filter_nil, same, decide_false, Bool.false_eq_true, if_false,
      List.append_nil]

omit [DecidableEq Uuid] in
theorem lookup_map_snd (value : Column → Cell Uuid) (state : AuditState Uuid) (column : Column) :
    (state.map fun item => (item.1, value item.1)).lookup column =
      (state.lookup column).map fun _ => value column := by
  induction state with
  | nil => rfl
  | cons item rest ih =>
    obtain ⟨listed, cell⟩ := item
    rw [List.map_cons, List.lookup_cons, List.lookup_cons]
    by_cases same : column = listed
    · subst same
      rw [beq_self_eq_true]
      rfl
    · rw [beq_false_of_ne same]
      exact ih

private theorem describes_replay {entry : AuditEntry Uuid} {earlier : Option (Workspace Uuid)}
    (describes : entry.Describes workspaceId after earlier) (audited : column.audited = true)
    {replayed : Option (Cell Uuid)}
    (replays : ∀ row, earlier = some row → replayed = some (row.cell workspaceId column)) :
    (entry.afterState.lookup column).or replayed = some (after.cell workspaceId column) := by
  cases earlier with
  | none =>
    rw [describes.2 column]
    rfl
  | some row =>
    obtain ⟨_, _, states⟩ := describes
    rw [(states column).2]
    split_ifs with differs
    · rfl
    · rw [replays row rfl, Option.none_or]
      unfold Workspace.differs at differs
      rw [audited, Bool.true_and, bne_iff_ne, not_not] at differs
      rw [differs]

/-! ### The changes of the calls -/

private theorem faithful_created (payload : CreatePayload) :
    (payload.change workspaceId tenantId actor now).Faithful where
  workspace := rfl
  version := rfl
  updatedBy := rfl
  describes := by
    refine ⟨rfl, fun column => ?_⟩
    cases column <;> rfl
  reasoned := ⟨fun _ => rfl, fun archived => nomatch archived⟩

omit [DecidableEq Uuid] in
theorem lookup_items (payload : UpdatePayload) (column : Column) :
    (payload.items : AuditState Uuid).lookup column =
      match column with
      | .workspaceName => payload.workspaceName.map fun name => Cell.text (some name)
      | .description => payload.description.map fun text => Cell.text text
      | .defaultTimezone => payload.defaultTimezone.map fun zone => Cell.text (some zone)
      | _ => none := by
  obtain ⟨name, description, zone⟩ := payload
  cases name <;> cases description <;> cases zone <;> cases column <;> rfl

omit [DecidableEq Uuid] in
theorem cell_apply (payload : UpdatePayload) (audited : column.audited = true) :
    (payload.apply row now).cell workspaceId column =
      ((payload.items : AuditState Uuid).lookup column).getD (row.cell workspaceId column) := by
  rw [lookup_items]
  obtain ⟨name, description, zone⟩ := payload
  cases column with
  | workspaceName => cases name <;> rfl
  | description => cases description <;> rfl
  | defaultTimezone => cases zone <;> rfl
  | workspaceSlug | status | statusReason => rfl
  | _ => cases audited

omit [DecidableEq Uuid] in
theorem audited_of_items {payload : UpdatePayload} {cell : Cell Uuid}
    (supplied : (payload.items : AuditState Uuid).lookup column = some cell) :
    column.audited = true := by
  rw [lookup_items] at supplied
  cases column with
  | workspaceName | description | defaultTimezone => rfl
  | _ => cases supplied

def UpdatePayload.suppliesChanges (payload : UpdatePayload) (workspaceId : Uuid)
    (row : Workspace Uuid) : Bool :=
  (payload.items : AuditState Uuid).all fun item => item.2 != row.cell workspaceId item.1

private theorem differs_apply {payload : UpdatePayload}
    (changes : payload.suppliesChanges workspaceId row = true) (column : Column) :
    row.differs workspaceId (payload.apply row now) column =
      ((payload.items : AuditState Uuid).lookup column).isSome := by
  unfold Workspace.differs
  cases supplied : (payload.items : AuditState Uuid).lookup column with
  | none =>
    cases audited : column.audited with
    | false => rfl
    | true =>
      rw [cell_apply payload audited, supplied, Option.getD_none, bne_self_eq_false]
      rfl
  | some cell =>
    have audited := audited_of_items supplied
    obtain ⟨_, _, split, _⟩ := List.lookup_eq_some_iff.mp supplied
    have listed : (column, cell) ∈ (payload.items : AuditState Uuid) := by
      rw [split]
      exact List.mem_append_right _ List.mem_cons_self
    have new := bne_iff_ne.mp (List.all_eq_true.mp changes (column, cell) listed)
    rw [audited, cell_apply payload audited, supplied, Option.getD_some, Bool.true_and]
    exact bne_iff_ne.mpr new.symm

private theorem faithful_updated {payload : UpdatePayload} (own : actor.id = row.updatedBy)
    (changes : payload.suppliesChanges workspaceId row = true) (reasoned : row.Reasoned) :
    (payload.change workspaceId tenantId actor row now).Faithful where
  workspace := rfl
  version := rfl
  updatedBy := own.symm
  describes := by
    refine ⟨_, rfl, fun column => ?_⟩
    change ((payload.items : AuditState Uuid).map fun item =>
        (item.1, row.cell workspaceId item.1)).lookup column =
          (if row.differs workspaceId (payload.apply row now) column then _ else none) ∧
      (payload.items : AuditState Uuid).lookup column =
        if row.differs workspaceId (payload.apply row now) column then
          some ((payload.apply row now).cell workspaceId column) else none
    rw [lookup_map_snd, differs_apply changes]
    cases supplied : (payload.items : AuditState Uuid).lookup column with
    | none => exact ⟨rfl, rfl⟩
    | some cell =>
      rw [cell_apply payload (audited_of_items supplied), supplied]
      exact ⟨rfl, rfl⟩
  reasoned := reasoned

private theorem faithful_status {status : WorkspaceStatus} {statusReason : Option String}
    {actionType : String} (moved : row.status ≠ status) (other : row.statusReason ≠ statusReason)
    (reasoned : (status = .active → statusReason = none) ∧
      (status = .archived → statusReason ≠ none)) :
    (statusChange workspaceId tenantId actor row status statusReason actionType now).Faithful where
  workspace := rfl
  version := rfl
  updatedBy := rfl
  describes := by
    refine ⟨_, rfl, fun column => ?_⟩
    have statusDiffers : ((Cell.status row.status : Cell Uuid) != Cell.status status) = true :=
      bne_iff_ne.mpr fun same => moved (Cell.status.inj same)
    have reasonDiffers :
        ((Cell.text row.statusReason : Cell Uuid) != Cell.text statusReason) = true :=
      bne_iff_ne.mpr fun same => other (Cell.text.inj same)
    cases column with
    | status => exact ⟨(if_pos statusDiffers).symm, (if_pos statusDiffers).symm⟩
    | statusReason => exact ⟨(if_pos reasonDiffers).symm, (if_pos reasonDiffers).symm⟩
    | workspaceName | workspaceSlug | description | defaultTimezone =>
      refine ⟨(if_neg ?_).symm, (if_neg ?_).symm⟩ <;>
        exact fun differs => absurd rfl (bne_iff_ne.mp (Bool.and_eq_true_iff.mp differs).2)
    | _ => exact ⟨rfl, rfl⟩
  reasoned := reasoned

end Entries

section Calls

variable {Uuid : Type}

def Call.actor : Call Uuid → Actor Uuid
  | .createWorkspace _ actor _ => actor
  | .updateWorkspace _ _ actor _ => actor
  | .archiveWorkspace _ _ actor _ _ => actor
  | .restoreWorkspace _ _ actor => actor
  | .changeStatus _ actor _ _ => actor

def Phase.actorId : Phase Uuid → Option Uuid
  | .idle _ => none
  | .calling call => some call.actor.id
  | .updating _ _ actor _ _ => some actor.id
  | .naming change _ => some change.entry.actorId
  | .archiving archival => some archival.actor.id
  | .counting archival _ => some archival.actor.id
  | .restoring _ _ actor _ => some actor.id
  | .writing change => some change.entry.actorId
  | .auditing change => some change.entry.actorId
  | .committing change => change.map (·.entry.actorId)
  | .writingTenant transition _ => some transition.actor.id
  | .selecting transition => some transition.actor.id
  | .cascading transition _ => some transition.actor.id

variable {Tx : Type} [DecidableEq Tx]

/-- The users of the calls that the transactions have begun last. -/
def recordActor (acting : Tx → Option Uuid) : Tx × Action Uuid → Tx → Option Uuid
  | (tx, .begin call) => Function.update acting tx (some call.actor.id)
  | _ => acting

variable [DecidableEq Uuid]

/-- An update is made by the user who wrote the row last and supplies changed fields only, and the
bulk `UPDATE` of a status change takes no row. -/
def World.careful (world : World Tx Uuid) : Tx × Action Uuid → Bool
  | (tx, .proceed _ _) =>
    match world.phase tx with
    | .updating workspaceId _ actor payload row =>
      !payload.hasChanges workspaceId row ||
        actor.id == row.updatedBy && payload.suppliesChanges workspaceId row
    | _ => true
  | (tx, .cascadeRow workspaceId _) =>
    match world.phase tx with
    | .cascading transition _ => (world.workspace tx workspaceId).all fun row => !transition.selects row
    | _ => true
  | _ => true

end Calls

section Worlds

variable {Tx Uuid : Type} [DecidableEq Tx] [DecidableEq Uuid]

structure World.Trailed (acting : Tx → Option Uuid) (world : World Tx Uuid) : Prop where
  sound : world.Sound
  reasoned : ∀ workspaceId row, world.workspaces.committed.lookup workspaceId = some row →
    row.Reasoned
  replays : Replays world.workspaces.committed world.audit
  faithful : ∀ tx change, (world.phase tx).change = some change → change.Faithful
  uncascaded : ∀ tx transition remaining, world.phase tx = .cascading transition remaining →
    world.workspaces.pending tx = ∅
  acts : ∀ tx actorId, (world.phase tx).actorId = some actorId → acting tx = some actorId

/-- One audit entry accompanies the new row of a workspace. -/
structure World.Recorded (world next : World Tx Uuid) (actorId workspaceId : Uuid)
    (entry : AuditEntry Uuid) : Prop where
  audit : next.audit = world.audit ++ [entry]
  workspace : entry.workspaceId = workspaceId
  actor : entry.actorId = actorId
  row : ∃ after, next.workspaces.committed.lookup workspaceId = some after ∧
    after.version = nextVersion (world.workspaces.committed.lookup workspaceId) ∧
    after.updatedBy = actorId ∧
    entry.Describes workspaceId after (world.workspaces.committed.lookup workspaceId)

/-- The step leaves the workspace and its entries alone. -/
def World.Keeps (world next : World Tx Uuid) (workspaceId : Uuid) : Prop :=
  next.workspaces.committed.lookup workspaceId = world.workspaces.committed.lookup workspaceId ∧
    entriesOf next.audit workspaceId = entriesOf world.audit workspaceId

variable {settings : Settings Uuid} {world next : World Tx Uuid} {tx other : Tx}
  {action : Action Uuid} {acting : Tx → Option Uuid} {change : Change Uuid}
  {transition : Transition Uuid} {remaining : List Uuid}

private theorem step_cascading (careful : world.careful (tx, action) = true)
    (at_ : world.phase tx = .cascading transition remaining)
    (stepped : world.step settings (tx, action) = some next) :
    next.phase tx = .idle none ∨ next.phase tx = .idle (some .raised) ∨
      next.workspaces = world.workspaces := by
  cases action with
  | begin call =>
    dsimp only [World.step] at stepped
    rw [at_] at stepped
    cases stepped
  | proceed now generated =>
    dsimp only [World.step] at stepped
    rw [at_] at stepped
    cases remaining with
    | nil =>
      obtain rfl := Option.some.inj stepped
      exact .inl (world.phase_commit tx)
    | cons => cases stepped
  | cascadeRow workspaceId now =>
    dsimp only [World.step] at stepped
    dsimp only [World.careful] at careful
    rw [at_] at stepped careful
    dsimp only at stepped careful
    unfold World.cascadeRow at stepped
    split_ifs at stepped
    split at stepped
    · obtain rfl := Option.some.inj stepped
      exact .inr (.inr rfl)
    · rename_i row selected
      obtain ⟨seen, selects⟩ := Option.filter_eq_some_iff.mp selected
      rw [seen, Option.all_some, selects] at careful
      cases careful
  | abort =>
    dsimp only [World.step] at stepped
    rw [at_] at stepped
    obtain rfl := Option.some.inj stepped
    exact .inr (.inl (world.phase_finish tx _))

theorem step_updating {workspaceId tenantId : Uuid} {actor : Actor Uuid} {payload : UpdatePayload}
    {row : Workspace Uuid} (careful : world.careful (tx, action) = true)
    (at_ : world.phase tx = .updating workspaceId tenantId actor payload row)
    (changes : payload.hasChanges workspaceId row = true)
    (stepped : world.step settings (tx, action) = some next)
    (changing : (next.phase tx).change = some change) :
    actor.id = row.updatedBy ∧ payload.suppliesChanges workspaceId row = true := by
  cases action with
  | begin call =>
    dsimp only [World.step] at stepped
    rw [at_] at stepped
    cases stepped
  | proceed now generated =>
    dsimp only [World.careful] at careful
    rw [at_] at careful
    dsimp only at careful
    rw [changes, Bool.not_true, Bool.false_or] at careful
    obtain ⟨own, supplies⟩ := Bool.and_eq_true_iff.mp careful
    exact ⟨eq_of_beq own, supplies⟩
  | cascadeRow workspaceId now =>
    dsimp only [World.step] at stepped
    rw [at_] at stepped
    cases stepped
  | abort =>
    dsimp only [World.step] at stepped
    rw [at_] at stepped
    obtain rfl := Option.some.inj stepped
    rw [World.fail, World.phase_finish] at changing
    cases changing

private theorem World.Trailed.faithfulNext (trailed : world.Trailed acting)
    (careful : world.careful (tx, action) = true)
    (stepped : world.step settings (tx, action) = some next)
    (changing : (next.phase tx).change = some change) : change.Faithful := by
  have grounded := trailed.sound.grounded tx
  have reserved := grounded.reserved
  have checked := grounded.checked
  obtain before | decides := effect_change trailed.sound (step_effect stepped) changing
  · exact trailed.faithful tx change before
  cases decides with
  | created => exact faithful_created _
  | updated workspaceId actor payload row now at_ live changes =>
    obtain ⟨own, supplies⟩ := step_updating careful at_ changes stepped changing
    rw [at_] at reserved
    exact faithful_updated own supplies
      (trailed.reasoned workspaceId row (reserved workspaceId _ rfl).2)
  | archived archival reason now at_ spared =>
    rw [at_] at reserved checked
    have reasoned := trailed.reasoned _ _ (reserved archival.workspaceId _ rfl).2
    refine faithful_status ?_ ?_ ⟨fun active => (nomatch active), fun _ => Option.some_ne_none _⟩
    · rw [checked.2]
      decide
    · rw [reasoned.1 checked.2]
      exact fun none_ => nomatch none_
  | restored workspaceId actor row now generated proceeds at_ archived active =>
    rw [at_] at reserved
    have reasoned := trailed.reasoned _ _ (reserved workspaceId _ rfl).2
    refine faithful_status ?_ (reasoned.2 archived) ⟨fun _ => rfl, fun active => (nomatch active)⟩
    rw [archived]
    decide

private theorem World.Trailed.uncascadedNext (trailed : world.Trailed acting)
    (careful : world.careful (tx, action) = true)
    (stepped : world.step settings (tx, action) = some next)
    (cascading : next.phase tx = .cascading transition remaining) :
    next.workspaces.pending tx = ∅ := by
  have grounded := trailed.sound.grounded tx
  have moved : ∀ {earlier : Transition Uuid} {rows : List Uuid},
      world.phase tx = .cascading earlier rows → next.workspaces.pending tx = ∅ := by
    intro earlier rows at_
    obtain idle | idle | same := step_cascading careful at_ stepped
    · rw [cascading] at idle
      cases idle
    · rw [cascading] at idle
      cases idle
    · rw [same]
      exact trailed.uncascaded tx _ _ at_
  cases step_effect stepped with
  | failed failure =>
    rw [World.fail, World.phase_finish] at cascading
    cases cascading
  | committed | cascaded =>
    rw [World.phase_commit] at cascading
    cases cascading
  | locked call workspaceId row phase at_ seen free opens =>
    rw [World.phase_goto] at cascading
    subst cascading
    cases opens
  | skippedRow earlier rows workspaceId at_ => exact moved at_
  | cascadedRow earlier rows workspaceId row now at_ => exact moved at_
  | wroteTenant earlier row at_ => exact (grounded.unwritten (by rw [at_]; trivial)).1
  | selected earlier at_ =>
    have written := grounded.written
    rw [at_] at written
    exact written
  | wroteAudit =>
    rw [World.writeAudit, World.phase_goto] at cascading
    cases cascading
  | _ =>
    rw [World.phase_goto] at cascading
    cases cascading

theorem World.Trailed.outcome (trailed : world.Trailed acting)
    (effect : world.Effect settings tx action next) :
    ((∀ workspaceId, next.workspaces.committed.lookup workspaceId =
        world.workspaces.committed.lookup workspaceId) ∧ next.audit = world.audit) ∨
      ∃ change, world.phase tx = .committing (some change) ∧
        world.workspaces.committed.lookup change.workspaceId = change.before ∧
        next.audit = world.audit ++ [change.entry] ∧
        ∀ workspaceId, next.workspaces.committed.lookup workspaceId =
          if workspaceId = change.workspaceId then some change.after
          else world.workspaces.committed.lookup workspaceId := by
  have grounded := trailed.sound.grounded tx
  have recorded := grounded.recorded
  obtain ⟨rows, _, audit⟩ | ⟨rfl, ⟨changed, at_⟩ | ⟨transition, at_⟩⟩ := effect_committed effect
  · exact .inl ⟨fun workspaceId => by rw [rows], audit⟩
  · rw [at_] at recorded
    cases changed with
    | none =>
      refine .inl ⟨lookup_commit_nothing trailed.sound at_, ?_⟩
      change world.audit ++ world.entries tx = world.audit
      rw [recorded]
      exact List.append_nil _
    | some change =>
      refine .inr ⟨change, at_, (grounded.reserved change.workspaceId change.before ?_).2, ?_,
        lookup_commit_change trailed.sound at_⟩
      · rw [at_]
        rfl
      · change world.audit ++ world.entries tx = world.audit ++ [change.entry]
        rw [recorded]
        rfl
  · rw [at_] at recorded
    refine .inl ⟨fun workspaceId => ?_, ?_⟩
    · rw [lookup_commit, trailed.uncascaded tx _ _ at_]
      rfl
    · change world.audit ++ world.entries tx = world.audit
      rw [recorded]
      exact List.append_nil _

theorem World.Trailed.keepsOr (trailed : world.Trailed acting)
    (effect : world.Effect settings tx action next) (workspaceId : Uuid) :
    world.Keeps next workspaceId ∨
      ∃ entry actorId, acting tx = some actorId ∧ world.Recorded next actorId workspaceId entry := by
  obtain ⟨rows, audit⟩ | ⟨change, at_, before, audit, rows⟩ := trailed.outcome effect
  · exact .inl ⟨rows workspaceId, by rw [audit]⟩
  have faithful := trailed.faithful tx change (by rw [at_]; rfl)
  by_cases same : workspaceId = change.workspaceId
  · subst same
    refine .inr ⟨change.entry, change.entry.actorId, trailed.acts tx _ (by rw [at_]; rfl), audit,
      faithful.workspace, rfl, change.after, (rows _).trans (if_pos rfl), ?_, faithful.updatedBy, ?_⟩
    · rw [before]
      exact faithful.version
    · rw [before]
      exact faithful.describes
  · refine .inl ⟨(rows workspaceId).trans (if_neg same), ?_⟩
    rw [audit, entriesOf_append, faithful.workspace, if_neg (Ne.symm same)]

private theorem World.Trailed.reasonedNext (trailed : world.Trailed acting)
    (effect : world.Effect settings tx action next) {workspaceId : Uuid} {row : Workspace Uuid}
    (found : next.workspaces.committed.lookup workspaceId = some row) : row.Reasoned := by
  obtain ⟨rows, _⟩ | ⟨change, at_, _, _, rows⟩ := trailed.outcome effect
  · exact trailed.reasoned workspaceId row ((rows workspaceId).symm.trans found)
  rw [rows] at found
  split_ifs at found with same
  · obtain rfl := Option.some.inj found
    exact (trailed.faithful tx change (by rw [at_]; rfl)).reasoned
  · exact trailed.reasoned workspaceId row found

private theorem World.Trailed.replaysNext (trailed : world.Trailed acting)
    (effect : world.Effect settings tx action next) :
    Replays next.workspaces.committed next.audit := by
  intro workspaceId row found column audited
  obtain ⟨kept, entries⟩ | ⟨entry, _, _, recorded⟩ := trailed.keepsOr effect workspaceId
  · rw [entries]
    exact trailed.replays workspaceId row (kept.symm.trans found) column audited
  · obtain ⟨after, there, _, _, describes⟩ := recorded.row
    obtain rfl := Option.some.inj (there.symm.trans found)
    rw [recorded.audit, entriesOf_append, if_pos recorded.workspace, replay_append]
    exact describes_replay describes audited fun before earlier =>
      trailed.replays workspaceId before earlier column audited

omit [DecidableEq Tx] [DecidableEq Uuid] in
theorem checkTransition_actor {unicode : Python.Unicode} {tenantId : Uuid} {actor : Actor Uuid}
    {source target : TenantStatus} {statusReason : Option String}
    (ok : checkTransition unicode tenantId actor source target statusReason = .ok transition) :
    transition.actor = actor := by
  unfold checkTransition at ok
  split_ifs at ok
  cases reason : transitionReason unicode target statusReason with
  | error failure =>
    rw [reason] at ok
    cases ok
  | ok text =>
    rw [reason] at ok
    obtain rfl := Except.ok.inj ok
    rfl

private theorem effect_actorId (effect : world.Effect settings tx action next) {actorId : Uuid}
    (acts : (next.phase tx).actorId = some actorId) :
    (∃ call, action = .begin call ∧ call.actor.id = actorId) ∨
      (world.phase tx).actorId = some actorId := by
  cases effect with
  | failed failure =>
    rw [World.fail, World.phase_finish] at acts
    cases acts
  | committed | cascaded =>
    rw [World.phase_commit] at acts
    cases acts
  | began failure call begins at_ =>
    rw [World.phase_goto] at acts
    exact .inl ⟨call, begins, Option.some.inj acts⟩
  | locked call workspaceId row phase at_ seen free opens =>
    rw [World.phase_goto] at acts
    rw [at_]
    cases opens <;> exact .inr acts
  | lockedTenant tenantId actor target statusReason transition row now generated proceeds at_ free
      unshared seen checked =>
    rw [World.phase_goto] at acts
    rw [at_, ← acts]
    exact .inr (congrArg (fun actor : Actor Uuid => some actor.id) (checkTransition_actor checked).symm)
  | wroteTenant transition row at_ =>
    rw [World.writeTenant, World.phase_goto] at acts
    rw [at_]
    split_ifs at acts <;> exact .inr acts
  | wroteAudit change at_ =>
    rw [World.writeAudit, World.phase_goto] at acts
    rw [at_]
    exact .inr acts
  | selected transition at_ =>
    rw [World.selectCascade, World.phase_goto] at acts
    rw [at_]
    exact .inr acts
  | unchanged =>
    rw [World.phase_goto] at acts
    cases acts
  | created tenantId actor payload generated now proceeds at_
  | checkingName workspaceId tenantId actor payload row name now at_
  | updated workspaceId tenantId actor payload row now at_
  | named change name at_
  | lockedAdvisory archival reason at_
  | archived archival reason now at_
  | restored workspaceId tenantId actor row now generated proceeds at_
  | wroteRow change row at_
  | insertedRow change at_
  | skippedRow transition remaining workspaceId at_
  | cascadedRow transition remaining workspaceId row now at_ =>
    rw [World.phase_goto] at acts
    rw [at_]
    exact .inr acts

private theorem World.Trailed.step (trailed : world.Trailed acting)
    (careful : world.careful (tx, action) = true)
    (stepped : world.step settings (tx, action) = some next) :
    next.Trailed (recordActor acting (tx, action)) := by
  have effect := step_effect stepped
  have frame : ∀ other, other ≠ tx → world.Frame next other :=
    fun other apart => effect_frame trailed.sound effect apart
  refine ⟨trailed.sound.effect effect, fun _ _ found => trailed.reasonedNext effect found,
    trailed.replaysNext effect, fun other change changing => ?_,
    fun other transition remaining cascading => ?_, fun other actorId acts => ?_⟩
  · by_cases same : other = tx
    · subst same
      exact trailed.faithfulNext careful stepped changing
    · rw [(frame other same).phase] at changing
      exact trailed.faithful other change changing
  · by_cases same : other = tx
    · subst same
      exact trailed.uncascadedNext careful stepped cascading
    · rw [(frame other same).phase] at cascading
      rw [(frame other same).workspaces.pending]
      exact trailed.uncascaded other transition remaining cascading
  · by_cases same : other = tx
    · subst same
      obtain ⟨call, rfl, rfl⟩ | before := effect_actorId effect acts
      · exact Function.update_self ..
      · have earlier := trailed.acts other actorId before
        cases action with
        | begin call =>
          dsimp only [World.step] at stepped
          split at stepped
          · rename_i at_
            rw [at_] at before
            cases before
          · cases stepped
        | _ => exact earlier
    · rw [(frame other same).phase] at acts
      have earlier := trailed.acts other actorId acts
      cases action with
      | begin call => exact (Function.update_of_ne same ..).trans earlier
      | _ => exact earlier

/-- From workspaces whose trail is complete, in every run of careful steps, the trail of a workspace
gives its row, and a step leaves a workspace and its entries alone, or commits its next version for
the user of the call, with one entry that states the changed fields. -/
theorem audit_trail_complete {workspaces : Rows Uuid (Workspace Uuid)}
    {tenants : Rows Uuid (Tenant Uuid)} {audit : List (AuditEntry Uuid)}
    {schedule : List (Tx × Action Uuid)} {reached : World Tx Uuid}
    (reasoned : ∀ workspaceId row, workspaces.lookup workspaceId = some row → row.Reasoned)
    (replays : Replays workspaces audit)
    (careful : RunMeets (World.step settings) (fun world action => world.careful action = true)
      (World.start workspaces tenants audit) schedule)
    (ran : run (World.step settings) (World.start workspaces tenants audit) schedule =
      some reached) :
    Replays reached.workspaces.committed reached.audit ∧
      ∀ tx action next, reached.step settings (tx, action) = some next → ∀ workspaceId,
        reached.Keeps next workspaceId ∨ ∃ entry actorId,
          schedule.foldl recordActor (fun _ => none) tx = some actorId ∧
            reached.Recorded next actorId workspaceId entry := by
  have begun : (World.start workspaces tenants audit : World Tx Uuid).Trailed fun _ => none :=
    ⟨World.sound_start, reasoned, replays, fun _ _ changing => (nomatch changing),
      fun _ _ _ cascading => (nomatch cascading), fun _ _ acts => (nomatch acts)⟩
  have trailed : reached.Trailed (schedule.foldl recordActor fun _ => none) :=
    run_preserves_recorded (fun _ _ _ _ trailed careful stepped => trailed.step careful stepped)
      begun careful ran
  exact ⟨trailed.replays, fun _ _ _ stepped => trailed.keepsOr (step_effect stepped)⟩

end Worlds

section Schedules

private def trailSettings : Settings Nat where
  unicode := .ascii
  nfc := id
  generatedLower := id
  hashtext _ := 0

private def firstTenant : Rows Nat (Tenant Nat) :=
  AList.insert 1 ⟨.active, none, 5, 0⟩ ∅

private def statements (count : Nat) : List (Unit × Action Nat) :=
  List.replicate count ((), .proceed 3 10)

private def creating : List (Unit × Action Nat) :=
  ((), .begin (.createWorkspace 1 ⟨5, "tenant_admin"⟩ ⟨"finance", "finance", none, none⟩)) ::
    statements 4

/-- Its creator describes a new workspace, and another user archives it. -/
private def describedAndArchived : List (Unit × Action Nat) :=
  creating ++
    ((), .begin (.updateWorkspace 10 1 ⟨5, "tenant_admin"⟩ ⟨none, some (some "ledgers"), none⟩)) ::
      statements 5 ++
    ((), .begin (.archiveWorkspace 10 1 ⟨6, "tenant_admin"⟩ (.str "no longer used") true)) ::
      statements 6

private theorem empty_reasoned (workspaceId : Nat) (row : Workspace Nat)
    (found : (∅ : Rows Nat (Workspace Nat)).lookup workspaceId = some row) : row.Reasoned :=
  nomatch found

private theorem empty_replays : Replays (∅ : Rows Nat (Workspace Nat)) [] :=
  fun _ _ found => nomatch found

/-- The trail of a workspace that was created, described and archived. -/
theorem archived_workspace_replays :
    ∃ reached : World Unit Nat,
      run (World.step trailSettings) (World.start ∅ firstTenant []) describedAndArchived =
        some reached ∧
      (reached.workspaces.committed.lookup 10).map (fun row => (row.status, row.version)) =
        some (.archived, 2) ∧
      Replays reached.workspaces.committed reached.audit := by
  have careful : RunMeets (World.step trailSettings) (fun world action => world.careful action = true)
      (World.start ∅ firstTenant [] : World Unit Nat) describedAndArchived := by decide +kernel
  exact ⟨_, rfl, by decide +kernel,
    (audit_trail_complete empty_reasoned empty_replays careful rfl).1⟩

/-- The suspension of its tenant takes a new workspace along, without an entry. -/
theorem suspended_workspace_unrecorded :
    Replays (∅ : Rows Nat (Workspace Nat)) [] ∧ ∃ reached : World Unit Nat,
      run (World.step trailSettings) (World.start ∅ firstTenant [])
        (creating ++ ((), .begin (.changeStatus 1 ⟨5, "platform_admin"⟩ .suspended
          (some "unpaid invoices"))) :: statements 3 ++ [((), .cascadeRow 10 3)] ++ statements 1) =
        some reached ∧
      ¬Replays reached.workspaces.committed reached.audit := by
  refine ⟨empty_replays, _, rfl, fun replays => ?_⟩
  have replayed := replays 10 _ rfl .status rfl
  revert replayed
  decide +kernel

end Schedules

end CogniDQ.Tenancy
