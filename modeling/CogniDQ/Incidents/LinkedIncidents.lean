import CogniDQ.Database.Standing
import CogniDQ.Protocol.Runs
import Mathlib.Data.Fintype.Basic

/-!
# Issues linked to incidents

`add_links` and `remove_links` of the link service, one transaction for each call, statement by
statement under READ COMMITTED. The statements that write several rows take them one by one: an
`INSERT` waits for a key that another transaction has written, a `DELETE` for a row of its snapshot
that another one is deleting.
-/

set_option autoImplicit false

namespace CogniDQ.IncidentLinks

open CogniDQ.Database CogniDQ.Protocol

/-- A row of `incident_issues` under its key. The version tells a row from one that is inserted
again after it has been deleted. -/
structure Link (Uuid Moment : Type) where
  linkedByUserId : Option Uuid
  linkedAt : Moment
  version : Nat
  deriving DecidableEq

inductive Call (Uuid : Type) where
  | addLinks (incidentId workspaceId : Uuid) (issueIds : List Uuid) (actorId : Uuid)
  | removeLinks (incidentId workspaceId : Uuid) (issueIds : List Uuid)

inductive LinkError (Uuid : Type) where
  | incidentNotFound
  | issueNotFound (missing : List Uuid)
  | minimumLink
  /-- The database refuses a pair that is linked already. -/
  | alreadyLinked

structure LinkOperationResponse (Uuid : Type) where
  incidentId : Uuid
  issueCount : Nat
  linkedIssueIds : List Uuid

inductive Phase (Uuid : Type) where
  | readingIncident
  | readingIssues
  | readingLinks
  | inserting (newIds : List Uuid)
  | deleting (toRemove : List Uuid)
  /-- The rows of the snapshot of the `DELETE`, with their versions. -/
  | deletingRows (targets : List (Uuid × Nat))
  | responding
  | returned (response : LinkOperationResponse Uuid)
  | raised (error : LinkError Uuid)
  | closed

inductive Action (Uuid Moment : Type) where
  | readIncident
  | readIssues
  | readLinks
  | insertRow (issueId : Uuid) (linkedAt : Moment) (version : Nat)
  | scanRows
  | deleteRow (issueId : Uuid)
  | respond
  | commit
  | rollback

/-- The workspaces of the incidents and of the issues that there are. -/
structure Catalog (Uuid : Type) where
  incidentWorkspace : Uuid → Option Uuid
  issueWorkspace : Uuid → Option Uuid

structure World (Tx Uuid Moment : Type) where
  catalog : Catalog Uuid
  call : Tx → Call Uuid
  table : Table Tx (Uuid × Uuid) (Link Uuid Moment)
  phase : Tx → Phase Uuid

namespace Call

variable {Uuid : Type}

def incidentId : Call Uuid → Uuid
  | .addLinks incidentId _ _ _ => incidentId
  | .removeLinks incidentId _ _ => incidentId

def workspaceId : Call Uuid → Uuid
  | .addLinks _ workspaceId _ _ => workspaceId
  | .removeLinks _ workspaceId _ => workspaceId

def actorId : Call Uuid → Option Uuid
  | .addLinks _ _ _ actorId => some actorId
  | .removeLinks _ _ _ => none

end Call

section Statements

variable {Tx Uuid Moment : Type} [DecidableEq Uuid]

def linkedIssueIds (incidentId : Uuid) (rows : Rows (Uuid × Uuid) (Link Uuid Moment)) : List Uuid :=
  (rows.entries.filter fun row => row.1.1 = incidentId).map fun row => row.1.2

/-- The rows that `delete_links` finds. -/
def linkRows (incidentId : Uuid) (issueIds : List Uuid)
    (rows : Rows (Uuid × Uuid) (Link Uuid Moment)) : List (Uuid × Nat) :=
  (rows.entries.filter fun row => row.1.1 = incidentId && row.1.2 ∈ issueIds).map fun row =>
    (row.1.2, row.2.version)

def Catalog.issuesInWorkspace (catalog : Catalog Uuid) (workspaceId : Uuid) (issueIds : List Uuid) :
    List Uuid :=
  issueIds.filter fun issueId => catalog.issueWorkspace issueId = some workspaceId

def afterIncident (catalog : Catalog Uuid) (call : Call Uuid) : Phase Uuid :=
  if catalog.incidentWorkspace call.incidentId = some call.workspaceId then
    match call with
    | .addLinks .. => .readingIssues
    | .removeLinks .. => .readingLinks
  else .raised .incidentNotFound

def afterIssues (catalog : Catalog Uuid) (workspaceId : Uuid) (issueIds : List Uuid) : Phase Uuid :=
  let uniqueIds := issueIds.eraseDups
  let found := catalog.issuesInWorkspace workspaceId uniqueIds
  if found.length ≠ uniqueIds.length then
    .raised (.issueNotFound (uniqueIds.filter fun issueId => issueId ∉ found))
  else .readingLinks

/-- An `INSERT` of no rows is not sent. -/
def insertingRest : List Uuid → Phase Uuid
  | [] => .responding
  | newIds => .inserting newIds

def deletingRest : List (Uuid × Nat) → Phase Uuid
  | [] => .responding
  | targets => .deletingRows targets

def afterLinks (existing : List Uuid) : Call Uuid → Phase Uuid
  | .addLinks _ _ issueIds _ =>
    insertingRest (issueIds.eraseDups.filter fun issueId => issueId ∉ existing)
  | .removeLinks _ _ issueIds =>
    let toRemove := existing.filter (· ∈ issueIds)
    let remaining := existing.filter (· ∉ toRemove)
    if remaining = [] then .raised .minimumLink
    else if toRemove = [] then .responding
    else .deleting toRemove

namespace World

variable [DecidableEq Tx] (world : World Tx Uuid Moment) (tx : Tx)

omit [DecidableEq Uuid] in
def goto (phase : Phase Uuid) : World Tx Uuid Moment :=
  { world with phase := Function.update world.phase tx phase }

def pair (issueId : Uuid) : Uuid × Uuid := ((world.call tx).incidentId, issueId)

def insertRow (newIds : List Uuid) (issueId : Uuid) (linkedAt : Moment) (version : Nat) :
    Option (World Tx Uuid Moment) :=
  let key := world.pair tx issueId
  if issueId ∈ newIds ∧ world.table.free tx key then
    if ((world.table.view tx).lookup key).isSome then
      some (world.goto tx (.raised .alreadyLinked))
    else
      let link := { linkedByUserId := (world.call tx).actorId, linkedAt, version }
      some (({ world with table := world.table.write tx key (some link) }).goto tx
        (insertingRest (newIds.erase issueId)))
  else none

/-- The version of the row that the `DELETE` has found for an issue, if it is still there. -/
def stillLinked (target : Uuid × Nat) : Bool :=
  ((world.table.view tx).lookup (world.pair tx target.1)).any (·.version == target.2)

def deleteRow (targets : List (Uuid × Nat)) (issueId : Uuid) : Option (World Tx Uuid Moment) :=
  match targets.find? (·.1 = issueId) with
  | none => none
  | some target =>
    let key := world.pair tx issueId
    if world.table.free tx key then
      let rest := deletingRest (targets.erase target)
      if world.stillLinked tx target then
        some (({ world with table := world.table.write tx key none }).goto tx rest)
      else some (world.goto tx rest)
    else none

def response : LinkOperationResponse Uuid :=
  let incidentId := (world.call tx).incidentId
  let allLinked := linkedIssueIds incidentId (world.table.view tx)
  { incidentId, issueCount := allLinked.length, linkedIssueIds := allLinked }

/-- One statement of a transaction, or its end; none when it waits or is not at that statement. -/
def step : Tx × Action Uuid Moment → Option (World Tx Uuid Moment)
  | (tx, action) =>
    match action, world.phase tx with
    | .readIncident, .readingIncident =>
      some (world.goto tx (afterIncident world.catalog (world.call tx)))
    | .readIssues, .readingIssues =>
      match world.call tx with
      | .addLinks _ workspaceId issueIds _ =>
        some (world.goto tx (afterIssues world.catalog workspaceId issueIds))
      | .removeLinks .. => none
    | .readLinks, .readingLinks =>
      let existing := linkedIssueIds (world.call tx).incidentId (world.table.view tx)
      some (world.goto tx (afterLinks existing (world.call tx)))
    | .insertRow issueId linkedAt version, .inserting newIds =>
      world.insertRow tx newIds issueId linkedAt version
    | .scanRows, .deleting toRemove =>
      let targets := linkRows (world.call tx).incidentId toRemove (world.table.view tx)
      some (world.goto tx (deletingRest targets))
    | .deleteRow issueId, .deletingRows targets => world.deleteRow tx targets issueId
    | .respond, .responding => some (world.goto tx (.returned (world.response tx)))
    | .commit, .returned _ =>
      some (({ world with table := world.table.commit tx }).goto tx .closed)
    | .rollback, .closed => none
    | .rollback, _ => some (({ world with table := world.table.release tx }).goto tx .closed)
    | _, _ => none

end World

def World.start (catalog : Catalog Uuid) (committed : Rows (Uuid × Uuid) (Link Uuid Moment))
    (call : Tx → Call Uuid) : World Tx Uuid Moment :=
  { catalog, call, table := .quiet committed, phase := fun _ => .readingIncident }

end Statements

end CogniDQ.IncidentLinks

/-!
## Incidents keep an issue

Which interleavings leave every incident with an issue. The rule of `remove_links` is decided on the
links that were there before its `DELETE`; what counts is a link that no removal under way has
taken when a row is deleted.
-/

namespace CogniDQ.IncidentLinks

open CogniDQ.Database CogniDQ.Protocol

section Invariant

variable {Tx Uuid Moment : Type} [DecidableEq Uuid]

def Catalog.InWorkspace (catalog : Catalog Uuid) (key : Uuid × Uuid) : Prop :=
  ∃ workspaceId, catalog.incidentWorkspace key.1 = some workspaceId ∧
    catalog.issueWorkspace key.2 = some workspaceId

/-- What a call knows about the issues that it is going to link. -/
def PhaseSound (catalog : Catalog Uuid) (call : Call Uuid) : Phase Uuid → Prop
  | .readingIssues => catalog.incidentWorkspace call.incidentId = some call.workspaceId
  | .readingLinks =>
    match call with
    | .addLinks incidentId _ issueIds _ =>
      ∀ issueId ∈ issueIds.eraseDups, catalog.InWorkspace (incidentId, issueId)
    | .removeLinks .. => True
  | .inserting newIds => ∀ issueId ∈ newIds, catalog.InWorkspace (call.incidentId, issueId)
  | _ => True

structure World.Sound (world : World Tx Uuid Moment) : Prop where
  confined : world.table.Confined world.catalog.InWorkspace
  phase : ∀ tx, PhaseSound world.catalog (world.call tx) (world.phase tx)

/-- The incident has a link that no transaction has deleted. -/
def World.Linked (incidentId : Uuid) (world : World Tx Uuid Moment) : Prop :=
  world.table.Standing fun key => key.1 = incidentId

def World.deletes [DecidableEq Tx] (world : World Tx Uuid Moment) (tx : Tx) (issueId : Uuid) :
    Bool :=
  match world.phase tx with
  | .deletingRows targets => (targets.find? (·.1 = issueId)).any (world.stillLinked tx)
  | _ => false

/-- When a link of the incident is deleted, it has another one that no transaction has deleted. -/
def LeavesLink [DecidableEq Tx] (incidentId : Uuid) (world : World Tx Uuid Moment) :
    Tx × Action Uuid Moment → Prop
  | (tx, .deleteRow issueId) =>
    (world.call tx).incidentId = incidentId → world.deletes tx issueId = true →
      ∃ other ∈ linkedIssueIds incidentId world.table.committed,
        other ≠ issueId ∧ ∀ writer, (world.table.pending writer).lookup (incidentId, other) ≠ some none
  | _ => True

instance decidableLeavesLink [Fintype Tx] [DecidableEq Tx] [DecidableEq Moment] {incidentId : Uuid}
    (world : World Tx Uuid Moment) (action : Tx × Action Uuid Moment) :
    Decidable (LeavesLink incidentId world action) := by
  obtain ⟨tx, _ | _ | _ | _ | _ | issueId | _ | _ | _⟩ := action
  all_goals
    unfold LeavesLink
    infer_instance

theorem mem_linkedIssueIds {incidentId issueId : Uuid}
    {rows : Rows (Uuid × Uuid) (Link Uuid Moment)} :
    issueId ∈ linkedIssueIds incidentId rows ↔
      ∃ link, rows.lookup (incidentId, issueId) = some link := by
  unfold linkedIssueIds
  rw [List.mem_map]
  constructor
  · intro ⟨⟨key, link⟩, listed, same⟩
    obtain ⟨inRows, ofIncident⟩ := List.mem_filter.mp listed
    have here : key = (incidentId, issueId) := Prod.ext (of_decide_eq_true ofIncident) same
    subst here
    exact ⟨link, AList.mem_lookup_iff.mpr inRows⟩
  · intro ⟨link, found⟩
    refine ⟨⟨(incidentId, issueId), link⟩, List.mem_filter.mpr ⟨?_, decide_eq_true rfl⟩, rfl⟩
    exact AList.mem_lookup_iff.mp found

theorem nodup_linkedIssueIds (incidentId : Uuid) (rows : Rows (Uuid × Uuid) (Link Uuid Moment)) :
    (linkedIssueIds incidentId rows).Nodup := by
  unfold linkedIssueIds
  refine List.Nodup.map_on ?_ ((List.NodupKeys.nodup rows.nodupKeys).filter _)
  intro first inFirst second inSecond same
  obtain ⟨firstIn, ofFirst⟩ := List.mem_filter.mp inFirst
  obtain ⟨secondIn, ofSecond⟩ := List.mem_filter.mp inSecond
  have sameKey : first.1 = second.1 :=
    Prod.ext ((of_decide_eq_true ofFirst).trans (of_decide_eq_true ofSecond).symm) same
  exact List.NodupKeys.eq_of_fst_eq rows.nodupKeys firstIn secondIn sameKey

variable {catalog : Catalog Uuid} {call : Call Uuid}

theorem phaseSound_afterIncident : PhaseSound catalog call (afterIncident catalog call) := by
  unfold afterIncident
  split
  · next inWorkspace =>
    cases call with
    | addLinks => exact inWorkspace
    | removeLinks => trivial
  · trivial

theorem phaseSound_afterIssues {incidentId workspaceId actorId : Uuid} {issueIds : List Uuid}
    (inWorkspace : catalog.incidentWorkspace incidentId = some workspaceId) :
    PhaseSound catalog (.addLinks incidentId workspaceId issueIds actorId)
      (afterIssues catalog workspaceId issueIds) := by
  unfold afterIssues
  dsimp only
  split
  · trivial
  · next all =>
    intro issueId listed
    have found := List.filter_eq_self.mp
      (List.filter_sublist.eq_of_length (not_ne_iff.mp all)) issueId listed
    exact ⟨workspaceId, inWorkspace, of_decide_eq_true found⟩

theorem phaseSound_insertingRest {newIds : List Uuid}
    (within : ∀ issueId ∈ newIds, catalog.InWorkspace (call.incidentId, issueId)) :
    PhaseSound catalog call (insertingRest newIds) := by
  cases newIds with
  | nil => trivial
  | cons => exact within

theorem phaseSound_deletingRest {targets : List (Uuid × Nat)} :
    PhaseSound catalog call (deletingRest targets) := by
  cases targets <;> trivial

private theorem phaseSound_afterLinks {existing : List Uuid}
    (before : PhaseSound catalog call .readingLinks) :
    PhaseSound catalog call (afterLinks existing call) := by
  cases call with
  | addLinks =>
    apply phaseSound_insertingRest
    intro issueId listed
    exact before issueId (List.mem_of_mem_filter listed)
  | removeLinks =>
    unfold afterLinks
    dsimp only
    split_ifs <;> trivial

variable [DecidableEq Tx] {world next : World Tx Uuid Moment} {tx : Tx}

theorem World.Sound.advance (sound : world.Sound)
    {table : Table Tx (Uuid × Uuid) (Link Uuid Moment)} {phase : Phase Uuid}
    (confined : table.Confined world.catalog.InWorkspace)
    (reached : PhaseSound world.catalog (world.call tx) phase) :
    World.Sound (({ world with table }).goto tx phase) where
  confined := confined
  phase other := by
    change PhaseSound world.catalog (world.call other) (Function.update world.phase tx phase other)
    by_cases same : other = tx
    · subst same
      rw [Function.update_self]
      exact reached
    · rw [Function.update_of_ne same]
      exact sound.phase other

private theorem World.Sound.insertRow (sound : world.Sound) {newIds : List Uuid} {issueId : Uuid}
    {linkedAt : Moment} {version : Nat} (inserting : world.phase tx = .inserting newIds)
    (inserted : world.insertRow tx newIds issueId linkedAt version = some next) : next.Sound := by
  have within := sound.phase tx
  rw [inserting] at within
  dsimp only [World.insertRow] at inserted
  split_ifs at inserted with waits present
  · cases inserted
    exact sound.advance sound.confined trivial
  · cases inserted
    refine sound.advance (sound.confined.write fun _ => within issueId waits.1) ?_
    exact phaseSound_insertingRest fun other listed => within other (List.mem_of_mem_erase listed)

theorem World.Sound.deleteRow (sound : world.Sound) {targets : List (Uuid × Nat)} {issueId : Uuid}
    (deleted : world.deleteRow tx targets issueId = some next) : next.Sound := by
  unfold World.deleteRow at deleted
  cases found : targets.find? (·.1 = issueId) with
  | none => simp [found] at deleted
  | some target =>
    simp only [found] at deleted
    split_ifs at deleted
    · cases deleted
      exact sound.advance (sound.confined.write fun stored => nomatch stored)
        phaseSound_deletingRest
    · cases deleted
      exact sound.advance sound.confined phaseSound_deletingRest

private theorem World.Sound.step (sound : world.Sound) {action : Tx × Action Uuid Moment}
    (stepped : world.step action = some next) : next.Sound := by
  obtain ⟨tx, action⟩ := action
  have before := sound.phase tx
  dsimp only [World.step] at stepped
  split at stepped
  · cases stepped
    exact sound.advance sound.confined phaseSound_afterIncident
  · next reading =>
    rw [reading] at before
    split at stepped
    · next adding =>
      rw [adding] at before
      cases stepped
      refine sound.advance sound.confined ?_
      rw [adding]
      exact phaseSound_afterIssues before
    · cases stepped
  · next reading =>
    rw [reading] at before
    cases stepped
    exact sound.advance sound.confined (phaseSound_afterLinks before)
  · next inserting => exact sound.insertRow inserting stepped
  · cases stepped
    exact sound.advance sound.confined phaseSound_deletingRest
  · exact sound.deleteRow stepped
  · cases stepped
    exact sound.advance sound.confined trivial
  · cases stepped
    exact sound.advance sound.confined.commit trivial
  · cases stepped
  · cases stepped
    exact sound.advance (sound.confined.release _) trivial
  · cases stepped

private theorem World.Linked.deleteRow {incidentId : Uuid} (linked : world.Linked incidentId)
    {targets : List (Uuid × Nat)} {issueId : Uuid} (deleting : world.phase tx = .deletingRows targets)
    (leaves : LeavesLink incidentId world (tx, .deleteRow issueId))
    (deleted : world.deleteRow tx targets issueId = some next) : next.Linked incidentId := by
  unfold World.deleteRow at deleted
  cases found : targets.find? (·.1 = issueId) with
  | none => simp [found] at deleted
  | some target =>
    simp only [found] at deleted
    split_ifs at deleted with available still
    · cases deleted
      by_cases ofIncident : (world.call tx).incidentId = incidentId
      · have taken : world.deletes tx issueId = true := by
          simp [World.deletes, deleting, found, still]
        obtain ⟨other, listed, apart, undeleted⟩ := leaves ofIncident taken
        obtain ⟨link, committed⟩ := mem_linkedIssueIds.mp listed
        refine Table.standing_of_delete committed rfl undeleted fun same => apart ?_
        exact congrArg Prod.snd same
      · exact Table.standing_delete_of_not linked ofIncident
    · cases deleted
      exact linked

private theorem World.Linked.step {incidentId : Uuid} (linked : world.Linked incidentId)
    {action : Tx × Action Uuid Moment} (leaves : LeavesLink incidentId world action)
    (stepped : world.step action = some next) : next.Linked incidentId := by
  obtain ⟨tx, action⟩ := action
  dsimp only [World.step] at stepped
  split at stepped
  · cases stepped
    exact linked
  · split at stepped
    · cases stepped
      exact linked
    · cases stepped
  · cases stepped
    exact linked
  · dsimp only [World.insertRow] at stepped
    split_ifs at stepped
    · cases stepped
      exact linked
    · cases stepped
      exact Table.Standing.write linked _
  · cases stepped
    exact linked
  · next deleting => exact linked.deleteRow deleting leaves stepped
  · cases stepped
    exact linked
  · cases stepped
    exact Table.Standing.commit linked
  · cases stepped
  · cases stepped
    exact Table.Standing.release linked
  · cases stepped

private theorem World.step_catalog {action : Tx × Action Uuid Moment}
    (stepped : world.step action = some next) : next.catalog = world.catalog := by
  obtain ⟨tx, action⟩ := action
  dsimp only [World.step] at stepped
  split at stepped
  case h_2 =>
    split at stepped
    · cases stepped
      rfl
    · cases stepped
  case h_4 =>
    dsimp only [World.insertRow] at stepped
    split_ifs at stepped <;> cases stepped <;> rfl
  case h_6 =>
    unfold World.deleteRow at stepped
    split at stepped
    · cases stepped
    · dsimp only at stepped
      split_ifs at stepped <;> cases stepped <;> rfl
  case h_9 => cases stepped
  case h_11 => cases stepped
  all_goals
    cases stepped
    rfl

variable {committed : Rows (Uuid × Uuid) (Link Uuid Moment)} {calls : Tx → Call Uuid}
  {schedule : List (Tx × Action Uuid Moment)} {final : World Tx Uuid Moment}

omit [DecidableEq Tx] in
private theorem World.sound_start
    (inWorkspace : ∀ key link, committed.lookup key = some link → catalog.InWorkspace key) :
    (World.start catalog committed calls : World Tx Uuid Moment).Sound where
  confined := Table.confined_quiet inWorkspace
  phase _ := trivial

private theorem links_inWorkspace
    (inWorkspace : ∀ key link, committed.lookup key = some link → catalog.InWorkspace key)
    (ran : run World.step (World.start catalog committed calls) schedule = some final) :
    ∀ key link, final.table.committed.lookup key = some link → catalog.InWorkspace key := by
  have kept : final.Sound ∧ final.catalog = catalog := by
    have preserved : ∀ (state : World Tx Uuid Moment) (action : Tx × Action Uuid Moment) next,
        (state.Sound ∧ state.catalog = catalog) → True → state.step action = some next →
        (next.Sound ∧ next.catalog = catalog) := by
      intro state action next kept _ stepped
      exact ⟨kept.1.step stepped, (World.step_catalog stepped).trans kept.2⟩
    have kept := run_preserves preserved ⟨World.sound_start inWorkspace, rfl⟩
      (runMeets_of_forall fun _ _ => trivial) ran
    exact kept
  intro key link found
  rw [← kept.2]
  exact kept.1.confined.committed key link found

/-- In every interleaving in which each row that is deleted leaves the incident a link that no
transaction has deleted, an incident with an issue has one in every committed state; the pairs are
distinct and the issues belong to the workspace of the incident. -/
theorem incident_keeps_link {incidentId : Uuid}
    (linked : linkedIssueIds incidentId committed ≠ [])
    (inWorkspace : ∀ key link, committed.lookup key = some link → catalog.InWorkspace key)
    (leaves : RunMeets World.step (LeavesLink incidentId) (World.start catalog committed calls)
      schedule)
    (ran : run World.step (World.start catalog committed calls) schedule = some final) :
    linkedIssueIds incidentId final.table.committed ≠ [] ∧
      (linkedIssueIds incidentId final.table.committed).Nodup ∧
      ∀ issueId ∈ linkedIssueIds incidentId final.table.committed,
        catalog.InWorkspace (incidentId, issueId) := by
  have begun : (World.start catalog committed calls : World Tx Uuid Moment).Linked incidentId := by
    obtain ⟨issueId, listed⟩ := List.exists_mem_of_ne_nil _ linked
    obtain ⟨link, found⟩ := mem_linkedIssueIds.mp listed
    exact Table.standing_quiet found rfl
  have standing : final.Linked incidentId :=
    run_preserves (fun _ _ _ kept leavesOne stepped => kept.step leavesOne stepped) begun leaves ran
  refine ⟨?_, nodup_linkedIssueIds _ _, fun issueId listed => ?_⟩
  · obtain ⟨⟨_, issueId⟩, link, found, rfl, -⟩ := standing
    exact List.ne_nil_of_mem (mem_linkedIssueIds.mpr ⟨link, found⟩)
  · obtain ⟨link, found⟩ := mem_linkedIssueIds.mp listed
    exact links_inWorkspace inWorkspace ran (incidentId, issueId) link found

end Invariant

section Schedules

private def oneWorkspace : Catalog Nat where
  incidentWorkspace _ := some 0
  issueWorkspace _ := some 0

private def twoLinks : Rows (Nat × Nat) (Link Nat Nat) :=
  AList.insert (7, 1) ⟨none, 0, 1⟩ (AList.insert (7, 2) ⟨none, 0, 2⟩ ∅)

private def twoRemovals (second : Bool) : Call Nat :=
  .removeLinks 7 0 [if second then 2 else 1]

private def reads (tx : Bool) : List (Bool × Action Nat Nat) :=
  [(tx, .readIncident), (tx, .readLinks)]

private def deletes (tx : Bool) : List (Bool × Action Nat Nat) :=
  [(tx, .scanRows), (tx, .deleteRow (if tx then 2 else 1)), (tx, .respond), (tx, .commit)]

/-- One of the removals is rolled back before it deletes its row, and the other one goes through. -/
theorem incident_keeps_link_of_one_removal :
    ∃ final, run World.step (World.start oneWorkspace twoLinks twoRemovals)
        (reads false ++ reads true ++ [(true, .rollback)] ++ deletes false) = some final ∧
      linkedIssueIds 7 final.table.committed ≠ [] ∧
      (linkedIssueIds 7 final.table.committed).Nodup ∧
      ∀ issueId ∈ linkedIssueIds 7 final.table.committed,
        oneWorkspace.InWorkspace (7, issueId) := by
  have ran : ∃ final, run World.step (World.start oneWorkspace twoLinks twoRemovals)
      (reads false ++ reads true ++ [(true, .rollback)] ++ deletes false) = some final := ⟨_, rfl⟩
  obtain ⟨final, ran⟩ := ran
  refine ⟨final, ran, incident_keeps_link (by decide) (fun _ _ _ => ⟨0, rfl, rfl⟩) ?_ ran⟩
  decide +kernel

/-- Both removals read both links, and each deletes the one that the other has counted on. -/
theorem last_link_removed :
    (linkedIssueIds 7 twoLinks).length = 2 ∧
      ∃ final, run World.step (World.start oneWorkspace twoLinks twoRemovals)
          (reads false ++ reads true ++ deletes false ++ deletes true) = some final ∧
        linkedIssueIds 7 final.table.committed = [] := by
  refine ⟨by decide, _, rfl, ?_⟩
  decide

end Schedules

end CogniDQ.IncidentLinks
