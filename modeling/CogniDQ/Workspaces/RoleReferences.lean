import CogniDQ.Workspaces.Roles

/-!
# Role references

Assignments name their role instead of pointing at it. The invariant below says that every name
resolves inside its workspace; it is carried through every sequence of requests.
-/

set_option autoImplicit false

namespace CogniDQ.Workspaces

/-- A request and what the database adds to it: generated ids and the transaction's time. -/
inductive Request (Uuid Moment : Type) where
  | createCustomRole (workspaceId : Uuid) (name displayName : String)
      (description : Option String) (permissions : List String) (createdBy roleId : Uuid)
      (now : Moment)
  | updateCustomRole (workspaceId roleId : Uuid) (displayName description : Option String)
      (permissions : Option (List String)) (now : Moment)
  | deleteCustomRole (workspaceId roleId : Uuid)
  | assignRole (workspaceId userId : Uuid) (roleName : String) (grantedBy raId : Uuid)
      (now : Moment)
  | revokeRole (workspaceId userId : Uuid)
  | grantWorkspaceAdmin (workspaceId actorId generatedId : Uuid) (now : Moment)

section Requests

variable {Uuid Moment : Type} [DecidableEq Uuid] (env : Environment Uuid)

def Request.perform (store : Store Uuid Moment) :
    Request Uuid Moment → Except RbacError (Store Uuid Moment)
  | .createCustomRole workspaceId name displayName description permissions createdBy roleId now =>
    (Workspaces.createCustomRole env workspaceId name displayName description permissions createdBy
      roleId now store).map (·.1)
  | .updateCustomRole workspaceId roleId displayName description permissions now =>
    (Workspaces.updateCustomRole env workspaceId roleId displayName description permissions now
      store).map (·.1)
  | .deleteCustomRole workspaceId roleId =>
    Workspaces.deleteCustomRole env workspaceId roleId store
  | .assignRole workspaceId userId roleName grantedBy raId now =>
    (Workspaces.assignRole env workspaceId userId roleName grantedBy raId now store).map (·.1)
  | .revokeRole workspaceId userId => Workspaces.revokeRole env workspaceId userId store
  | .grantWorkspaceAdmin workspaceId actorId generatedId now =>
    Workspaces.grantWorkspaceAdmin env workspaceId actorId generatedId now store

def Request.step (store : Store Uuid Moment) (request : Request Uuid Moment) : Store Uuid Moment :=
  match request.perform env store with
  | .ok next => next
  | .error _ => store

def runRequests (store : Store Uuid Moment) (requests : List (Request Uuid Moment)) :
    Store Uuid Moment :=
  requests.foldl (Request.step env) store

end Requests

section Invariant

variable {Uuid Moment : Type}

def Store.names (store : Store Uuid Moment) (workspaceId : Uuid) (roleName : String) : Prop :=
  roleName ∈ validRoleNames ∨
    ∃ role ∈ store.customRoles, role.workspaceId = workspaceId ∧ role.name = roleName

def Store.permissionSet (store : Store Uuid Moment) (workspaceId : Uuid) (roleName : String) :
    Set String :=
  { permission |
    (∃ permissions, (roleName, permissions) ∈ fixedRolePermissions ∧ permission ∈ permissions) ∨
      ∃ role ∈ store.customRoles, role.workspaceId = workspaceId ∧ role.name = roleName ∧
        (role.id, permission) ∈ store.customRolePermissions }

structure Store.Sound (store : Store Uuid Moment) : Prop where
  resolved : ∀ entry ∈ store.assignments.entries, store.names entry.1.1 entry.2.roleName
  unreserved : ∀ role ∈ store.customRoles, role.name ∉ validRoleNames
  known : ∀ row ∈ store.customRolePermissions, row.2 ∈ allKnownPermissions
  distinctIds : (store.customRoles.map (·.id)).Nodup
  distinctNames : (store.customRoles.map fun role => (role.workspaceId, role.name)).Nodup

private theorem Store.sound_empty : (Store.empty : Store Uuid Moment).Sound where
  resolved _ member := by cases member
  unreserved _ member := by cases member
  known _ member := by cases member
  distinctIds := List.nodup_nil
  distinctNames := List.nodup_nil

theorem Store.names_mono {store next : Store Uuid Moment} {workspaceId : Uuid} {roleName : String}
    (kept : ∀ role ∈ store.customRoles, ∃ same ∈ next.customRoles,
      same.workspaceId = role.workspaceId ∧ same.name = role.name)
    (named : store.names workspaceId roleName) : next.names workspaceId roleName := by
  rcases named with builtIn | ⟨role, member, rfl, rfl⟩
  · exact .inl builtIn
  · exact .inr (kept role member)

end Invariant

section Assignments

variable {Uuid Moment : Type} [DecidableEq Uuid] {env : Environment Uuid}
  {store next : Store Uuid Moment}

theorem getCustomRole_eq_some {workspaceId roleId : Uuid} {found : CustomRoleView Uuid Moment}
    (success : getCustomRole env workspaceId roleId store = some found) :
    found.role ∈ store.customRoles ∧ found.role.workspaceId = workspaceId ∧
      found.role.id = roleId ∧ ∀ permission,
        permission ∈ found.permissions ↔
          (found.role.id, permission) ∈ store.customRolePermissions := by
  obtain ⟨role, search, rfl⟩ := Option.map_eq_some_iff.mp success
  have matched := List.find?_some search
  simp only [Bool.and_eq_true, beq_iff_eq] at matched
  refine ⟨List.mem_of_find?_eq_some search, matched.1, matched.2, fun permission => ?_⟩
  simp [matched.2]

private theorem getCustomRoleByName_named {workspaceId : Uuid} {name : String}
    (found : (getCustomRoleByName env workspaceId name store).isSome) :
    store.names workspaceId name := by
  unfold getCustomRoleByName at found
  cases search : store.customRoles.find? fun role =>
      role.workspaceId == workspaceId && role.name == name with
  | none => simp [search] at found
  | some role =>
      have matched := List.find?_some search
      simp only [Bool.and_eq_true, beq_iff_eq] at matched
      exact .inr ⟨role, List.mem_of_find?_eq_some search, matched.1, matched.2⟩

theorem Store.Sound.insert_assignment (sound : store.Sound) {key : Uuid × Uuid}
    {row : Assignment Uuid Moment} (named : store.names key.1 row.roleName) :
    ({ store with assignments := store.assignments.insert key row } : Store Uuid Moment).Sound where
  resolved entry member := by
    rcases List.mem_cons.mp (by simpa using member) with rfl | older
    · exact named
    · exact sound.resolved entry ((List.kerase_sublist _ _).subset older)
  unreserved := sound.unreserved
  known := sound.known
  distinctIds := sound.distinctIds
  distinctNames := sound.distinctNames

private theorem Store.Sound.erase_assignment (sound : store.Sound) (key : Uuid × Uuid) :
    ({ store with assignments := store.assignments.erase key } : Store Uuid Moment).Sound where
  resolved entry member := sound.resolved entry ((List.kerase_sublist _ _).subset member)
  unreserved := sound.unreserved
  known := sound.known
  distinctIds := sound.distinctIds
  distinctNames := sound.distinctNames

theorem Store.Sound.assignRole (sound : store.Sound) {workspaceId userId grantedBy raId : Uuid}
    {roleName : String} {now : Moment} {answer : Option (Assignment Uuid Moment)}
    (success : assignRole env workspaceId userId roleName grantedBy raId now store =
      .ok (next, answer)) : next.Sound := by
  unfold Workspaces.assignRole at success
  split at success
  · cases success
  · next valid =>
    have named : store.names workspaceId roleName := by
      by_cases builtIn : roleName ∈ validRoleNames
      · exact .inl builtIn
      · have found : (getCustomRoleByName env workspaceId roleName store).isSome := by
          simpa [builtIn, Option.isSome_iff_ne_none] using valid
        exact getCustomRoleByName_named found
    dsimp only at success
    split at success
    · cases success
    · split at success
      · cases success
        exact sound
      · split at success
        · cases success
        · cases success
          exact sound.insert_assignment (by simpa using named)

private theorem Store.Sound.revokeRole (sound : store.Sound) {workspaceId userId : Uuid}
    (success : revokeRole env workspaceId userId store = .ok next) : next.Sound := by
  unfold Workspaces.revokeRole at success
  split at success
  · cases success
  · split at success
    · cases success
    · cases success
      exact sound.erase_assignment _

private theorem Store.Sound.grantWorkspaceAdmin (sound : store.Sound)
    {workspaceId actorId generatedId : Uuid} {now : Moment}
    (success : grantWorkspaceAdmin env workspaceId actorId generatedId now store = .ok next) :
    next.Sound := by
  unfold Workspaces.grantWorkspaceAdmin at success
  split at success
  · cases success
    exact sound
  · dsimp only at success
    split at success
    · cases success
    · cases success
      exact sound.insert_assignment (.inl workspaceAdminRole_valid)

end Assignments

section CustomRoles

variable {Uuid Moment : Type} {store next : Store Uuid Moment}

theorem statements_eq_ok {first : Except Violation (Store Uuid Moment)}
    {second : Store Uuid Moment → Except Violation (Store Uuid Moment)} :
    first >>= second = .ok next ↔ ∃ between, first = .ok between ∧ second between = .ok next := by
  cases first <;> simp [bind, Except.bind]

private theorem Store.Sound.filterPermissions (sound : store.Sound) (keep : Uuid × String → Bool) :
    ({ store with customRolePermissions := store.customRolePermissions.filter keep } :
      Store Uuid Moment).Sound where
  resolved := sound.resolved
  unreserved := sound.unreserved
  known row member := sound.known row (List.mem_filter.mp member).1
  distinctIds := sound.distinctIds
  distinctNames := sound.distinctNames

theorem known_of_unknownPermissions {permissions : List String}
    (none : unknownPermissions permissions = []) :
    ∀ permission ∈ permissions, permission ∈ allKnownPermissions := by
  intro permission member
  have checked := List.filter_eq_nil_iff.mp none permission member
  simpa using checked

private theorem length_of_varchar {limit : Nat} {text stored : String}
    (success : varchar limit text = .ok stored) :
    stored = text ∨ stored.length = limit := by
  unfold varchar at success
  split at success
  · cases success
    by_cases short : text.toList.length ≤ limit
    · left
      rw [List.take_of_length_le short, String.ofList_toList]
    · right
      rw [String.length_ofList, List.length_take]
      omega
  · cases success

theorem unreserved_of_varchar {name stored : String} (success : varchar 60 name = .ok stored)
    (unreserved : name ∉ validRoleNames) : stored ∉ validRoleNames := by
  rcases length_of_varchar success with rfl | full
  · exact unreserved
  · intro builtIn
    have short := length_lt_of_valid builtIn
    omega

private theorem map_eq_ok {α : Type} {outcome : Except RbacError (Store Uuid Moment × α)} :
    outcome.map (·.1) = .ok next ↔ ∃ answer, outcome = .ok answer ∧ answer.1 = next := by
  cases outcome <;> simp [Except.map]

variable [DecidableEq Uuid] {env : Environment Uuid}

private theorem insertCustomRole_eq_ok {role : CustomRole Uuid Moment}
    (success : insertCustomRole env role store = .ok next) :
    ∃ added : CustomRole Uuid Moment,
      varchar 60 role.name = .ok added.name ∧
      next = { store with customRoles := store.customRoles ++ [added] } ∧
      (∀ other ∈ store.customRoles, other.id ≠ added.id) ∧
      ∀ other ∈ store.customRoles,
        ¬(other.workspaceId = added.workspaceId ∧ other.name = added.name) := by
  unfold insertCustomRole at success
  cases cut : varchar 60 role.name with
  | error violation => simp [cut, bind, Except.bind] at success
  | ok name =>
    cases cutDisplay : varchar 120 role.displayName with
    | error violation => simp [cut, cutDisplay, bind, Except.bind] at success
    | ok displayName =>
      simp only [cut, cutDisplay, bind, Except.bind] at success
      split_ifs at success with malformed takenId takenName
      cases success
      refine ⟨{ role with name, displayName }, rfl, rfl, ?_, ?_⟩
      · simpa using takenId
      · simpa using takenName

private theorem Store.Sound.insertCustomRole (sound : store.Sound) {role : CustomRole Uuid Moment}
    (unreserved : role.name ∉ validRoleNames)
    (success : insertCustomRole env role store = .ok next) : next.Sound := by
  obtain ⟨added, cut, rfl, freshId, freshName⟩ := insertCustomRole_eq_ok success
  refine ⟨fun entry member => ?_, fun other member => ?_, sound.known, ?_, ?_⟩
  · refine Store.names_mono (fun other older => ?_) (sound.resolved entry member)
    exact ⟨other, List.mem_append_left _ older, rfl, rfl⟩
  · rcases List.mem_append.mp member with older | latest
    · exact sound.unreserved other older
    · rw [List.mem_singleton.mp latest]
      exact unreserved_of_varchar cut unreserved
  · rw [List.map_append, List.map_singleton, List.nodup_append]
    refine ⟨sound.distinctIds, List.nodup_singleton _, fun id older latest member same => ?_⟩
    obtain ⟨other, listed, rfl⟩ := List.mem_map.mp older
    exact freshId other listed (same.trans (List.mem_singleton.mp member))
  · rw [List.map_append, List.map_singleton, List.nodup_append]
    refine ⟨sound.distinctNames, List.nodup_singleton _, fun key older latest member same => ?_⟩
    obtain ⟨other, listed, rfl⟩ := List.mem_map.mp older
    exact freshName other listed (Prod.mk.inj (same.trans (List.mem_singleton.mp member)))

theorem Store.Sound.insertPermissions (sound : store.Sound) {roleId : Uuid}
    {permissions : List String} (known : ∀ permission ∈ permissions, permission ∈ allKnownPermissions)
    (success : insertPermissions roleId permissions store = .ok next) : next.Sound := by
  unfold Workspaces.insertPermissions at success
  dsimp only at success
  split at success
  · cases success
  · cases success
    refine ⟨sound.resolved, sound.unreserved, fun row member => ?_, sound.distinctIds,
      sound.distinctNames⟩
    rcases List.mem_append.mp member with older | latest
    · exact sound.known row older
    · obtain ⟨permission, listed, rfl⟩ := List.mem_map.mp latest
      exact known permission (List.mem_dedup.mp listed)

theorem Store.Sound.createCustomRole (sound : store.Sound) {workspaceId createdBy roleId : Uuid}
    {name displayName : String} {description : Option String} {permissions : List String}
    {now : Moment} {answer : Option (CustomRoleView Uuid Moment)}
    (success : createCustomRole env workspaceId name displayName description permissions createdBy
      roleId now store = .ok (next, answer)) : next.Sound := by
  unfold Workspaces.createCustomRole at success
  split_ifs at success with reserved unknown
  have known := known_of_unknownPermissions (not_not.mp unknown)
  dsimp only at success
  split at success
  · cases success
  · cases success
  · next created inserted =>
    cases success
    obtain ⟨withRole, roleInserted, permissionsInserted⟩ := statements_eq_ok.mp inserted
    exact (sound.insertCustomRole reserved roleInserted).insertPermissions known permissionsInserted

private theorem Store.Sound.updateCustomRoleRow (sound : store.Sound) {workspaceId roleId : Uuid}
    {displayName : String} {description : Option String} {now : Moment}
    (success : updateCustomRoleRow workspaceId roleId displayName description now store =
      .ok next) : next.Sound := by
  unfold Workspaces.updateCustomRoleRow at success
  cases cut : varchar 120 displayName with
  | error violation => simp [cut, bind, Except.bind] at success
  | ok stored =>
    simp only [cut, bind, Except.bind, pure, Except.pure, Except.ok.injEq] at success
    subst success
    refine ⟨fun entry member => ?_, fun other member => ?_, sound.known, ?_, ?_⟩
    · refine Store.names_mono (fun role older => ?_) (sound.resolved entry member)
      refine ⟨_, List.mem_map_of_mem older, ?_⟩
      split <;> exact ⟨rfl, rfl⟩
    · obtain ⟨role, older, rfl⟩ := List.mem_map.mp member
      split <;> exact sound.unreserved role older
    · rw [List.map_map]
      convert sound.distinctIds using 3 with role
      simp only [Function.comp_apply]
      split <;> rfl
    · rw [List.map_map]
      convert sound.distinctNames using 3 with role
      simp only [Function.comp_apply]
      split <;> rfl

private theorem Store.Sound.updateCustomRole (sound : store.Sound) {workspaceId roleId : Uuid}
    {displayName description : Option String} {permissions : Option (List String)} {now : Moment}
    {answer : Option (CustomRoleView Uuid Moment)}
    (success : updateCustomRole env workspaceId roleId displayName description permissions now store =
      .ok (next, answer)) : next.Sound := by
  unfold Workspaces.updateCustomRole at success
  split at success
  · cases success
  · split_ifs at success with unknown
    have known := known_of_unknownPermissions (not_not.mp unknown)
    dsimp only at success
    split at success
    · cases success
    · next updated replaced =>
      cases success
      obtain ⟨written, rowWritten, permissionsWritten⟩ := statements_eq_ok.mp replaced
      have soundRow := sound.updateCustomRoleRow rowWritten
      cases permissions with
      | none =>
        cases permissionsWritten
        exact soundRow
      | some permissions =>
        exact (soundRow.filterPermissions _).insertPermissions known permissionsWritten

private theorem Store.Sound.deleteCustomRole (sound : store.Sound) {workspaceId roleId : Uuid}
    (success : deleteCustomRole env workspaceId roleId store = .ok next) : next.Sound := by
  unfold Workspaces.deleteCustomRole at success
  split at success
  · cases success
  · next existing search =>
    obtain ⟨member, inWorkspace, sameId, -⟩ := getCustomRole_eq_some search
    dsimp only at success
    split_ifs at success with inUse
    cases success
    have unused : ∀ entry ∈ store.assignments.entries,
        ¬(entry.1.1 = workspaceId ∧ entry.2.roleName = existing.role.name) := by
      intro entry assigned
      have none := List.countP_eq_zero.mp (Nat.eq_zero_of_not_pos inUse) entry assigned
      simpa using none
    refine ⟨fun entry assigned => ?_, fun other kept => ?_, fun row kept => ?_,
      sound.distinctIds.sublist (List.filter_sublist.map _),
      sound.distinctNames.sublist (List.filter_sublist.map _)⟩
    · rcases sound.resolved entry assigned with builtIn | ⟨role, older, inSame, named⟩
      · exact .inl builtIn
      · refine .inr ⟨role, List.mem_filter.mpr ⟨older, ?_⟩, inSame, named⟩
        by_contra removed
        have matched : role.workspaceId = workspaceId ∧ role.id = roleId := by simpa using removed
        -- Ids are unique, so the removed role is the one whose use was counted.
        have same : role = existing.role :=
          List.inj_on_of_nodup_map sound.distinctIds older member (matched.2.trans sameId.symm)
        exact unused entry assigned ⟨inSame.symm.trans matched.1, by rw [← named, same]⟩
    · exact sound.unreserved other (List.mem_filter.mp kept).1
    · exact sound.known row (List.mem_filter.mp kept).1

end CustomRoles

section Permissions

variable {Uuid Moment : Type} {store : Store Uuid Moment}

private theorem lookup_fixedRolePermissions {roleName : String} {permissions : List String} :
    fixedRolePermissions.lookup roleName = some permissions ↔
      (roleName, permissions) ∈ fixedRolePermissions := by
  have found : ∀ entry ∈ fixedRolePermissions,
      fixedRolePermissions.lookup entry.1 = some entry.2 := by decide +kernel
  constructor
  · intro success
    obtain ⟨before, after, split, -⟩ := List.lookup_eq_some_iff.mp success
    rw [split]
    exact List.mem_append_right _ List.mem_cons_self
  · intro member
    exact found _ member

private theorem mem_validRoleNames_iff {roleName : String} :
    roleName ∈ validRoleNames ↔ ∃ permissions, (roleName, permissions) ∈ fixedRolePermissions := by
  simp [validRoleNames]

variable [DecidableEq Uuid] {env : Environment Uuid}

variable (env) in
theorem Store.Sound.getCustomRole_of_mem (sound : store.Sound) {role : CustomRole Uuid Moment}
    (member : role ∈ store.customRoles) :
    ∃ found, getCustomRole env role.workspaceId role.id store = some found ∧ found.role = role := by
  have present : (store.customRoles.find? fun other =>
      other.workspaceId == role.workspaceId && other.id == role.id).isSome := by
    rw [List.find?_isSome]
    exact ⟨role, member, by simp⟩
  obtain ⟨first, search⟩ := Option.isSome_iff_exists.mp present
  have resolved : (getCustomRole env role.workspaceId role.id store).isSome := by
    rw [getCustomRole, search]
    rfl
  obtain ⟨found, success⟩ := Option.isSome_iff_exists.mp resolved
  obtain ⟨listed, -, sameId, -⟩ := getCustomRole_eq_some success
  exact ⟨found, success, List.inj_on_of_nodup_map sound.distinctIds listed member sameId⟩

variable (env) in
private theorem Store.Sound.getCustomRoleByName_of_mem (sound : store.Sound)
    {role : CustomRole Uuid Moment} (member : role ∈ store.customRoles) :
    ∃ found, getCustomRoleByName env role.workspaceId role.name store = some found ∧
      found.role = role := by
  have present : (store.customRoles.find? fun other =>
      other.workspaceId == role.workspaceId && other.name == role.name).isSome := by
    rw [List.find?_isSome]
    exact ⟨role, member, by simp⟩
  obtain ⟨first, search⟩ := Option.isSome_iff_exists.mp present
  have matched := List.find?_some search
  simp only [Bool.and_eq_true, beq_iff_eq] at matched
  have same : first = role :=
    List.inj_on_of_nodup_map sound.distinctNames (List.mem_of_find?_eq_some search) member
      (Prod.ext matched.1 matched.2)
  obtain ⟨found, success, role_eq⟩ := sound.getCustomRole_of_mem env member
  refine ⟨found, ?_, role_eq⟩
  rw [getCustomRoleByName, search, ← success, same]

variable (env) in
private theorem Store.Sound.mem_getRolePermissions (sound : store.Sound) (workspaceId : Uuid)
    (roleName permission : String) :
    (∃ permissions, getRolePermissions env workspaceId roleName store = some permissions ∧
      permission ∈ permissions) ↔ permission ∈ store.permissionSet workspaceId roleName := by
  unfold getRolePermissions
  cases builtIn : fixedRolePermissions.lookup roleName with
  | some permissions =>
    have member := lookup_fixedRolePermissions.mp builtIn
    have reserved := mem_validRoleNames_iff.mpr ⟨permissions, member⟩
    constructor
    · rintro ⟨_, ⟨⟩, granted⟩
      exact .inl ⟨permissions, member, granted⟩
    · rintro (⟨others, listed, granted⟩ | ⟨role, older, -, rfl, -⟩)
      · have same := (lookup_fixedRolePermissions.mpr listed).symm.trans builtIn
        exact ⟨permissions, rfl, Option.some.inj same ▸ granted⟩
      · exact absurd reserved (sound.unreserved role older)
  | none =>
    constructor
    · rintro ⟨permissions, resolved, granted⟩
      obtain ⟨found, success, rfl⟩ := Option.map_eq_some_iff.mp resolved
      unfold getCustomRoleByName at success
      split at success
      · cases success
      · next first search =>
        have matched := List.find?_some search
        simp only [Bool.and_eq_true, beq_iff_eq] at matched
        obtain ⟨member, inWorkspace, sameId, contents⟩ := getCustomRole_eq_some success
        have same : found.role = first :=
          List.inj_on_of_nodup_map sound.distinctIds member (List.mem_of_find?_eq_some search) sameId
        exact .inr ⟨found.role, member, inWorkspace, by rw [same, matched.2],
          (contents permission).mp granted⟩
    · rintro (⟨others, listed, -⟩ | ⟨role, member, rfl, rfl, granted⟩)
      · exact nomatch builtIn.symm.trans (lookup_fixedRolePermissions.mpr listed)
      · obtain ⟨found, success, rfl⟩ := sound.getCustomRoleByName_of_mem env member
        refine ⟨found.permissions, by rw [success]; rfl, ?_⟩
        unfold getCustomRoleByName at success
        split at success
        · cases success
        · exact ((getCustomRole_eq_some success).2.2.2 permission).mpr granted

private theorem Store.Sound.checkPermission_iff (sound : store.Sound) {workspaceId userId : Uuid}
    {action : String} :
    checkPermission env workspaceId userId action store = true ↔
      ∃ row, ⟨(workspaceId, userId), row⟩ ∈ store.assignments.entries ∧
        action ∈ store.permissionSet workspaceId row.roleName := by
  unfold checkPermission getMemberRole
  have resolved : ∀ row, ⟨(workspaceId, userId), row⟩ ∈ store.assignments.entries ↔
      store.assignments.lookup (workspaceId, userId) = some row :=
    fun row => AList.mem_lookup_iff.symm
  simp only [resolved]
  cases store.assignments.lookup (workspaceId, userId) with
  | none => simp
  | some row =>
    have granted := sound.mem_getRolePermissions env workspaceId row.roleName action
    constructor
    · intro allowed
      refine ⟨row, rfl, granted.mp ?_⟩
      dsimp only at allowed
      split at allowed
      · cases allowed
      · next permissions known => exact ⟨permissions, known, of_decide_eq_true allowed⟩
    · rintro ⟨_, ⟨⟩, allowed⟩
      obtain ⟨permissions, known, member⟩ := granted.mpr allowed
      simp [known, member]

end Permissions

section Runs

variable {Uuid Moment : Type} [DecidableEq Uuid] (env : Environment Uuid)

private theorem Store.Sound.perform {store next : Store Uuid Moment} (sound : store.Sound)
    (request : Request Uuid Moment) (success : request.perform env store = .ok next) :
    next.Sound := by
  cases request with
  | createCustomRole =>
    obtain ⟨⟨_, answer⟩, created, rfl⟩ := map_eq_ok.mp success
    exact sound.createCustomRole created
  | updateCustomRole =>
    obtain ⟨⟨_, answer⟩, updated, rfl⟩ := map_eq_ok.mp success
    exact sound.updateCustomRole updated
  | deleteCustomRole => exact sound.deleteCustomRole success
  | assignRole =>
    obtain ⟨⟨_, answer⟩, assigned, rfl⟩ := map_eq_ok.mp success
    exact sound.assignRole assigned
  | revokeRole => exact sound.revokeRole success
  | grantWorkspaceAdmin => exact sound.grantWorkspaceAdmin success

private theorem Store.Sound.step {store : Store Uuid Moment} (sound : store.Sound)
    (request : Request Uuid Moment) : (request.step env store).Sound := by
  unfold Request.step
  split
  · next next success => exact sound.perform env request success
  · exact sound

private theorem Store.Sound.runRequests {store : Store Uuid Moment} (sound : store.Sound)
    (requests : List (Request Uuid Moment)) : (runRequests env store requests).Sound := by
  induction requests generalizing store with
  | nil => exact sound
  | cons request rest ih => exact ih (sound.step env request)

/-- In every store a sequence of requests reaches from the empty one, each assignment names a role
of its workspace and grants that role's permissions and nothing else. -/
theorem runRequests_resolved (requests : List (Request Uuid Moment)) :
    let store := Workspaces.runRequests env Store.empty requests
    (∀ entry ∈ store.assignments.entries, entry.2.roleName ∈ validRoleNames ∨
      ∃ role ∈ store.customRoles, role.workspaceId = entry.1.1 ∧ role.name = entry.2.roleName) ∧
    (∀ role ∈ store.customRoles, role.name ∉ validRoleNames) ∧
    (∀ row ∈ store.customRolePermissions, row.2 ∈ allKnownPermissions) ∧
    (∀ left ∈ store.assignments.entries, ∀ right ∈ store.assignments.entries,
      left.1 = right.1 → left = right) ∧
    ∀ (workspaceId userId : Uuid) (action : String),
      checkPermission env workspaceId userId action store = true ↔
        ∃ row, ⟨(workspaceId, userId), row⟩ ∈ store.assignments.entries ∧
          action ∈ store.permissionSet workspaceId row.roleName := by
  intro store
  have sound : store.Sound := Store.sound_empty.runRequests env requests
  refine ⟨sound.resolved, sound.unreserved, sound.known, ?_,
    fun workspaceId userId action => sound.checkPermission_iff⟩
  intro left leftMember right rightMember sameKey
  exact List.inj_on_of_nodup_map store.assignments.keys_nodup leftMember rightMember sameKey

end Runs

end CogniDQ.Workspaces
