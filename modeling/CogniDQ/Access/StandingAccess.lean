import CogniDQ.Access.Guards
import Mathlib.Tactic.SplitIfs

/-!
# No standing access

Which guards of workspace content let platform staff pass without a support grant of the
workspace's own tenant.
-/

set_option autoImplicit false

namespace CogniDQ.Access

open CogniDQ.Database CogniDQ.Workspaces

section Coverage

variable {Uuid Moment : Type} [DecidableEq Uuid] (directory : Directory Uuid Moment) (now : Int)

/-- A live grant of a tenant, for all its workspaces or for this one. -/
def Granted (tenantId workspaceId : Uuid) : Prop :=
  ∃ grant ∈ directory.grants, grant.tenantId = tenantId ∧
    (grant.workspaceId = none ∨ grant.workspaceId = some workspaceId) ∧
    grant.revokedAt = none ∧ now < grant.expiresAt

def Covered (workspaceId : Uuid) : Prop :=
  ∃ tenantId, directory.workspaces.lookup workspaceId = some tenantId ∧
    Granted directory now tenantId workspaceId

variable {directory now}

private theorem hasActiveGrant_some_iff {tenantId workspaceId : Uuid} :
    hasActiveGrant directory now (some tenantId) (some workspaceId) = true ↔
      Granted directory now tenantId workspaceId := by
  simp only [hasActiveGrant, Granted, List.any_eq_true, Bool.and_eq_true, Bool.or_eq_true,
    beq_iff_eq, Option.isSome_some, true_and, Option.isNone_iff_eq_none, decide_eq_true_eq]
  constructor
  · rintro ⟨grant, stored, ⟨⟨tenant, scope⟩, live⟩, unexpired⟩
    exact ⟨grant, stored, tenant, scope, live, unexpired⟩
  · rintro ⟨grant, stored, tenant, scope, live, unexpired⟩
    exact ⟨grant, stored, ⟨⟨tenant, scope⟩, live⟩, unexpired⟩

private theorem hasActiveGrant_none_iff {workspaceId : Uuid} :
    hasActiveGrant directory now none (some workspaceId) = true ↔
      Covered directory now workspaceId := by
  cases found : directory.workspaces.lookup workspaceId with
  | none =>
    constructor
    · intro granted
      simp [hasActiveGrant, found] at granted
    · rintro ⟨tenantId, owned, _⟩
      rw [found] at owned
      cases owned
  | some tenantId =>
    have resolved : hasActiveGrant directory now none (some workspaceId) =
        hasActiveGrant directory now (some tenantId) (some workspaceId) := by
      simp [hasActiveGrant, found]
    rw [resolved, hasActiveGrant_some_iff]
    constructor
    · intro granted
      exact ⟨tenantId, found, granted⟩
    · rintro ⟨owner, owned, granted⟩
      obtain rfl := Option.some.inj (found.symm.trans owned)
      exact granted

end Coverage

section Identity

variable {Uuid : Type} {settings : GuardSettings Uuid} {actor : Actor Uuid}
  {tenantOptional : String → Bool}

private theorem buildContext_of_optional {payload : Payload}
    (built : buildContext settings (fun _ => true) payload = .ok actor)
    (optional : tenantOptional actor.actorRole = true) :
    buildContext settings tenantOptional payload = .ok actor := by
  unfold buildContext at built ⊢
  dsimp only at built ⊢
  split at built
  · rename_i rawActorId actorRole hasId hasRole
    simp only [Bool.not_true, Bool.and_false, Bool.false_eq_true, if_false] at built
    have role : actor.actorRole = actorRole := by
      split at built
      · cases built
      · split at built
        · cases built
          rfl
        · split at built
          · cases built
          · cases built
            rfl
    rw [role] at optional
    simpa only [optional, Bool.not_true, Bool.and_false, Bool.false_eq_true, if_false] using built
  · cases built

theorem authenticate_of_optional {request : Request Uuid}
    (known : authenticateWorkspace settings request = .ok actor)
    (optional : tenantOptional actor.actorRole = true) :
    authenticate settings tenantOptional request = .ok actor := by
  unfold authenticateWorkspace authenticate at known
  unfold authenticate
  cases bearer : extractBearerToken request.authorization with
  | error refusal =>
    rw [bearer] at known
    cases known
  | ok token =>
    rw [bearer] at known
    cases decoded : decodeToken settings token with
    | error refusal =>
      simp only [bind, Except.bind, decoded] at known
      cases known
    | ok payload =>
      simp only [bind, Except.bind, decoded] at known ⊢
      exact buildContext_of_optional known optional

end Identity

section Staff

variable {Uuid Moment : Type} [DecidableEq Uuid] {settings : GuardSettings Uuid}
  (directory : Directory Uuid Moment) (now : Int)

/-- What each guard asks of a platform admin whose token names this tenant. -/
def Guard.AsksOfAdmin (tenantId : Option Uuid) (workspaceId : Uuid) : Guard → Prop
  | .anyAuthenticated => True
  | .auditLog | .settingsRead | .settingsWrite =>
    hasActiveGrant directory now tenantId (some workspaceId) = true
  | .permission _ | .dataSourceWrite | .dataSourceRead | .datasetWrite | .datasetRead
  | .datasetArchive | .datasetPause =>
    hasActiveGrant directory now none (some workspaceId) = true

def Guard.AsksOfViewer (tenantId : Option Uuid) (workspaceId : Uuid) : Guard → Prop
  | .anyAuthenticated | .dataSourceRead | .datasetRead => True
  | .auditLog | .settingsRead => hasActiveGrant directory now tenantId (some workspaceId) = true
  | .permission action =>
    hasActiveGrant directory now none (some workspaceId) = true ∧
      (":read".toList.isSuffixOf action.toList || action == "view_audit_logs") = true
  | .settingsWrite | .dataSourceWrite | .datasetWrite | .datasetArchive | .datasetPause => False

variable {directory now} {request : Request Uuid} {actor : Actor Uuid}

theorem verifyWorkspaceRole_isOk_iff {roles granted : List String} {detail : String}
    (known : authenticateWorkspace settings request = .ok actor) :
    (verifyWorkspaceRole settings directory now roles granted detail request).isOk = true ↔
      actor.actorRole ∈ roles ∧ (actor.actorRole ∈ granted →
        hasActiveGrant directory now actor.tenantId (some request.workspaceId) = true) := by
  unfold verifyWorkspaceRole requireSupportGrant
  rw [known]
  by_cases allowed : actor.actorRole ∈ roles
  · by_cases needs : actor.actorRole ∈ granted
    · by_cases grant : hasActiveGrant directory now actor.tenantId (some request.workspaceId) = true
      all_goals simp [bind, Except.bind, pure, Except.pure, Except.isOk, Except.toBool, allowed,
        needs, grant]
    · simp [bind, Except.bind, pure, Except.pure, Except.isOk, Except.toBool, allowed, needs]
  · simp [bind, Except.bind, Except.isOk, Except.toBool, allowed, throw, throwThe,
      MonadExceptOf.throw]

theorem verifyContentRole_isOk_iff {roles : List String} {purpose : String} :
    (verifyContentRole directory now (.ok actor) roles purpose request).isOk = true ↔
      actor.actorRole ∈ roles ∧ (actor.actorRole = "platform_admin" →
        hasActiveGrant directory now none (some request.workspaceId) = true) := by
  unfold verifyContentRole requireSupportGrantIfPlatformAdmin
  by_cases allowed : actor.actorRole ∈ roles
  · by_cases needs : actor.actorRole = "platform_admin"
    · by_cases grant : hasActiveGrant directory now none (some request.workspaceId) = true
      all_goals simp [bind, Except.bind, pure, Except.pure, Except.isOk, Except.toBool, ← needs,
        allowed, grant]
    · simp [bind, Except.bind, pure, Except.pure, Except.isOk, Except.toBool, allowed, needs]
  · simp [bind, Except.bind, Except.isOk, Except.toBool, allowed, throw, throwThe,
      MonadExceptOf.throw]

theorem requireWorkspacePermission_isOk_iff {action : String}
    (known : authenticateWorkspace settings request = .ok actor)
    (staff : actor.actorRole ∈ platformOperatorRoles) :
    (requireWorkspacePermission settings directory now action request).isOk = true ↔
      hasActiveGrant directory now none (some request.workspaceId) = true ∧
        (actor.actorRole = "platform_admin" ∨
          (":read".toList.isSuffixOf action.toList || action == "view_audit_logs") = true) := by
  unfold requireWorkspacePermission
  simp only [known, bind, Except.bind]
  rw [if_pos staff]
  by_cases grant : hasActiveGrant directory now none (some request.workspaceId) = true
  · rw [if_pos grant]
    by_cases admin : actor.actorRole = "platform_admin"
    · rw [if_pos admin]
      exact ⟨fun _ => ⟨grant, .inl admin⟩, fun _ => rfl⟩
    · rw [if_neg admin]
      by_cases reads : (":read".toList.isSuffixOf action.toList || action == "view_audit_logs") = true
      · rw [if_pos reads]
        exact ⟨fun _ => ⟨grant, .inr reads⟩, fun _ => rfl⟩
      · rw [if_neg reads]
        refine ⟨fun opened => ?_, fun asked => (asked.2.elim admin reads).elim⟩
        cases opened
  · rw [if_neg grant]
    refine ⟨fun opened => ?_, fun asked => absurd asked.1 grant⟩
    cases opened

private theorem verify_admin_iff (known : authenticateWorkspace settings request = .ok actor)
    (role : actor.actorRole = "platform_admin") (guard : Guard) :
    (guard.verify settings directory now request).isOk = true ↔
      guard.AsksOfAdmin directory now actor.tenantId request.workspaceId := by
  have source : authenticateDataSource settings request = .ok actor :=
    authenticate_of_optional known (by rw [role]; decide)
  have dataset : authenticateDataset settings request = .ok actor :=
    authenticate_of_optional known (by rw [role]; decide)
  cases guard with
  | anyAuthenticated =>
    simp only [Guard.verify, verifyAnyAuthenticatedActor, known, Guard.AsksOfAdmin]
    exact ⟨fun _ => trivial, fun _ => rfl⟩
  | permission action =>
    refine (requireWorkspacePermission_isOk_iff known (by rw [role]; decide)).trans ?_
    exact ⟨fun asked => asked.1, fun granted => ⟨granted, .inl role⟩⟩
  | auditLog | settingsRead | settingsWrite =>
    refine (verifyWorkspaceRole_isOk_iff known).trans ?_
    rw [role]
    exact ⟨fun opened => opened.2 (by decide), fun granted => ⟨by decide, fun _ => granted⟩⟩
  | dataSourceWrite | dataSourceRead =>
    simp only [Guard.verify, verifyDataSourceWriteActor, verifyDataSourceReadActor, source,
      Guard.AsksOfAdmin, verifyContentRole_isOk_iff, role]
    exact ⟨fun opened => opened.2 trivial, fun granted => ⟨by decide, fun _ => granted⟩⟩
  | datasetWrite | datasetRead | datasetArchive | datasetPause =>
    simp only [Guard.verify, verifyDatasetWriteActor, verifyDatasetReadActor,
      verifyDatasetArchiveActor, verifyDatasetPauseActor, dataset, Guard.AsksOfAdmin,
      verifyContentRole_isOk_iff, role]
    exact ⟨fun opened => opened.2 trivial, fun granted => ⟨by decide, fun _ => granted⟩⟩

private theorem verify_viewer_iff (known : authenticateWorkspace settings request = .ok actor)
    (role : actor.actorRole = "platform_viewer") (guard : Guard) :
    (guard.verify settings directory now request).isOk = true ↔
      guard.AsksOfViewer directory now actor.tenantId request.workspaceId := by
  have source : authenticateDataSource settings request = .ok actor :=
    authenticate_of_optional known (by rw [role]; decide)
  have dataset : authenticateDataset settings request = .ok actor :=
    authenticate_of_optional known (by rw [role]; decide)
  cases guard with
  | anyAuthenticated =>
    simp only [Guard.verify, verifyAnyAuthenticatedActor, known, Guard.AsksOfViewer]
    exact ⟨fun _ => trivial, fun _ => rfl⟩
  | permission action =>
    refine (requireWorkspacePermission_isOk_iff known (by rw [role]; decide)).trans ?_
    have viewer : actor.actorRole ≠ "platform_admin" := by
      rw [role]
      decide
    exact ⟨fun asked => ⟨asked.1, asked.2.resolve_left viewer⟩,
      fun granted => ⟨granted.1, .inr granted.2⟩⟩
  | auditLog | settingsRead =>
    refine (verifyWorkspaceRole_isOk_iff known).trans ?_
    rw [role]
    exact ⟨fun opened => opened.2 (by decide), fun granted => ⟨by decide, fun _ => granted⟩⟩
  | settingsWrite =>
    refine (verifyWorkspaceRole_isOk_iff known).trans ?_
    rw [role]
    exact ⟨fun opened => absurd opened.1 (by decide), False.elim⟩
  | dataSourceRead =>
    simp only [Guard.verify, verifyDataSourceReadActor, source, Guard.AsksOfViewer,
      verifyContentRole_isOk_iff, role]
    exact ⟨fun _ => trivial, fun _ => ⟨by decide, fun admin => absurd admin (by decide)⟩⟩
  | datasetRead =>
    simp only [Guard.verify, verifyDatasetReadActor, dataset, Guard.AsksOfViewer,
      verifyContentRole_isOk_iff, role]
    exact ⟨fun _ => trivial, fun _ => ⟨by decide, fun admin => absurd admin (by decide)⟩⟩
  | dataSourceWrite =>
    simp only [Guard.verify, verifyDataSourceWriteActor, source, Guard.AsksOfViewer,
      verifyContentRole_isOk_iff, role]
    exact ⟨fun opened => absurd opened.1 (by decide), False.elim⟩
  | datasetWrite | datasetArchive | datasetPause =>
    simp only [Guard.verify, verifyDatasetWriteActor, verifyDatasetArchiveActor,
      verifyDatasetPauseActor, dataset, Guard.AsksOfViewer, verifyContentRole_isOk_iff, role]
    exact ⟨fun opened => absurd opened.1 (by decide), False.elim⟩

end Staff

/-- No guard opens to these two actors of the platform unless the workspace's tenant granted it,
and none opens to the viewer while it refuses the admin. -/
def Guard.NoStandingAccess {Uuid Moment : Type} [DecidableEq Uuid] (settings : GuardSettings Uuid)
    (directory : Directory Uuid Moment) (now : Int) (adminRequest viewerRequest : Request Uuid)
    (guard : Guard) : Prop :=
  ((guard.verify settings directory now adminRequest).isOk = true →
      Covered directory now adminRequest.workspaceId) ∧
    ((guard.verify settings directory now viewerRequest).isOk = true →
      Covered directory now viewerRequest.workspaceId) ∧
    ((guard.verify settings directory now viewerRequest).isOk = true →
      (guard.verify settings directory now adminRequest).isOk = true)

/-- The grants that a guard must find, by where it looks for them. -/
def Guard.Consults {Uuid Moment : Type} [DecidableEq Uuid] (directory : Directory Uuid Moment)
    (now : Int) (adminTenant viewerTenant : Option Uuid) (workspaceId : Uuid) : Guard → Prop
  | .anyAuthenticated | .dataSourceRead | .datasetRead =>
    hasActiveGrant directory now none (some workspaceId) = true
  | .settingsWrite =>
    hasActiveGrant directory now adminTenant (some workspaceId) = true →
      hasActiveGrant directory now none (some workspaceId) = true
  | .auditLog | .settingsRead =>
    (hasActiveGrant directory now adminTenant (some workspaceId) = true →
        hasActiveGrant directory now none (some workspaceId) = true) ∧
      (hasActiveGrant directory now viewerTenant (some workspaceId) = true →
        hasActiveGrant directory now none (some workspaceId) = true ∧
          hasActiveGrant directory now adminTenant (some workspaceId) = true)
  | .permission _ | .dataSourceWrite | .datasetWrite | .datasetArchive | .datasetPause => True

/-- Exactly which guards keep platform staff out without a grant, in each state of the grants. -/
theorem noStandingAccess_iff {Uuid Moment : Type} [DecidableEq Uuid]
    {settings : GuardSettings Uuid} {directory : Directory Uuid Moment} {now : Int}
    {adminRequest viewerRequest : Request Uuid} {admin viewer : Actor Uuid}
    (sameWorkspace : viewerRequest.workspaceId = adminRequest.workspaceId)
    (adminKnown : authenticateWorkspace settings adminRequest = .ok admin)
    (viewerKnown : authenticateWorkspace settings viewerRequest = .ok viewer)
    (adminRole : admin.actorRole = "platform_admin")
    (viewerRole : viewer.actorRole = "platform_viewer") (guard : Guard) :
    guard.NoStandingAccess settings directory now adminRequest viewerRequest ↔
      guard.Consults directory now admin.tenantId viewer.tenantId adminRequest.workspaceId := by
  unfold Guard.NoStandingAccess
  rw [verify_admin_iff adminKnown adminRole, verify_viewer_iff viewerKnown viewerRole,
    sameWorkspace, ← hasActiveGrant_none_iff]
  cases guard with
  | anyAuthenticated => exact ⟨fun safe => safe.1 trivial, fun granted => ⟨fun _ => granted,
      fun _ => granted, fun _ => trivial⟩⟩
  | dataSourceRead | datasetRead =>
    exact ⟨fun safe => safe.2.1 trivial, fun granted => ⟨fun _ => granted, fun _ => granted,
      fun _ => granted⟩⟩
  | settingsWrite =>
    exact ⟨fun safe => safe.1, fun own => ⟨own, False.elim, False.elim⟩⟩
  | auditLog | settingsRead =>
    constructor
    · rintro ⟨adminCovered, viewerCovered, ordered⟩
      exact ⟨adminCovered, fun granted => ⟨viewerCovered granted, ordered granted⟩⟩
    · rintro ⟨adminCovered, viewerCovered⟩
      exact ⟨adminCovered, fun granted => (viewerCovered granted).1,
        fun granted => (viewerCovered granted).2⟩
  | permission action =>
    exact ⟨fun _ => trivial, fun _ => ⟨id, And.left, And.left⟩⟩
  | dataSourceWrite | datasetWrite | datasetArchive | datasetPause =>
    exact ⟨fun _ => trivial, fun _ => ⟨id, False.elim, False.elim⟩⟩

/-! Two members of the platform staff at workspace 7 of tenant 3. -/

private def staffSettings : GuardSettings Nat where
  decode token := if token = "admin" then .ok ⟨some "1", some "platform_admin", none⟩
    else .ok ⟨some "2", some "platform_viewer", none⟩
  uuid text := if text = "1" then some 1 else if text = "2" then some 2 else none
  environment := ⟨fun _ => true, fun _ => true, fun left right => left == right,
    fun id => toString id, fun _ => "", fun _ => ""⟩

private def staffDirectory (grants : List (SupportGrant Nat)) : Directory Nat Nat where
  workspaces := AList.insert 7 3 ∅
  grants := grants
  store := Store.empty

private theorem authenticate_admin :
    authenticateWorkspace staffSettings ⟨some "Bearer admin", 7⟩ =
      .ok ⟨1, "platform_admin", none⟩ := by
  decide +kernel

private theorem authenticate_viewer :
    authenticateWorkspace staffSettings ⟨some "Bearer viewer", 7⟩ =
      .ok ⟨2, "platform_viewer", none⟩ := by
  decide +kernel

/-- Under a grant of the tenant the settings open to both staff members. -/
theorem settings_open_under_grant :
    Guard.settingsRead.NoStandingAccess staffSettings (staffDirectory [⟨3, none, 100, none⟩]) 50
      ⟨some "Bearer admin", 7⟩ ⟨some "Bearer viewer", 7⟩ :=
  (noStandingAccess_iff (by rfl) authenticate_admin authenticate_viewer rfl rfl .settingsRead).mpr
    ⟨id, fun granted => ⟨granted, granted⟩⟩

/-- Without any grant the viewer reads datasets, and the admin does not. -/
theorem viewer_reads_without_grant :
    authenticateWorkspace staffSettings ⟨some "Bearer viewer", 7⟩ =
        .ok ⟨2, "platform_viewer", none⟩ ∧
      ¬Guard.datasetRead.NoStandingAccess staffSettings (staffDirectory []) 50
        ⟨some "Bearer admin", 7⟩ ⟨some "Bearer viewer", 7⟩ := by
  refine ⟨authenticate_viewer, fun safe => ?_⟩
  obtain ⟨tenantId, owned, grant, stored, unexpired⟩ := safe.2.1 (by decide +kernel)
  cases stored

end CogniDQ.Access
