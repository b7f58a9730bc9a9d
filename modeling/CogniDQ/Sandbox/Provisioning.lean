import CogniDQ.Sandbox.ExpiredSandboxes
import CogniDQ.Sandbox.ProvisioningService

/-!
# Attempts of provisioning

What an attempt leaves behind when it returns, and when it raises.
-/

set_option autoImplicit false

namespace CogniDQ.Sandbox

open CogniDQ.Database CogniDQ.Protocol CogniDQ.Python ProvisioningService

section Specification

variable {Uuid : Type} [DecidableEq Uuid] [ToString Uuid]

/-- The rows that an attempt reads when it finds no environment of its request. -/
structure Attempt.Starts (attempt : Attempt Uuid) (db : Db Uuid) (job : ProvisioningJob Uuid)
    (request : DemoRequest Uuid) (profileId : Uuid) : Prop where
  queued : db.jobs.lookup attempt.jobId = some job
  asked : db.requests.lookup job.demoRequestId = some request
  missing : findExistingEnv db.environments job.demoRequestId = none
  profiled : db.profiles.lookup (parametersOf (request.selected job.demoRequestId)).accessProfileCode =
    some profileId

def Attempt.inserted (attempt : Attempt Uuid) (job : ProvisioningJob Uuid)
    (request : DemoRequest Uuid) (profileId : Uuid) : SandboxEnvironment Uuid :=
  newEnvironment attempt job.demoRequestId profileId
    (parametersOf (request.selected job.demoRequestId))

def Attempt.activated (attempt : Attempt Uuid) (row : SandboxEnvironment Uuid) :
    SandboxEnvironment Uuid :=
  row.updateStatus { status := .active, setProvisionedAt := true } attempt.draw.dbNow

/-- The environment of an attempt was added to those there were. -/
structure Attempt.Adds (attempt : Attempt Uuid) (before : Rows Uuid (SandboxEnvironment Uuid))
    (row : SandboxEnvironment Uuid) (after : Rows Uuid (SandboxEnvironment Uuid)) : Prop where
  fresh : before.lookup attempt.draw.sandboxId = none
  alone : ∀ other version, before.lookup other = some version →
    version.demoRequestId ≠ row.demoRequestId
  after : after = before.insert attempt.draw.sandboxId row

/-- An attempt leaves the environments as they were, or has added one. -/
def Attempt.Leaves (attempt : Attempt Uuid) (before after : Db Uuid) : Prop :=
  after.environments = before.environments ∨ ∃ job request profileId row,
    attempt.Starts before job request profileId ∧
    (row = attempt.inserted job request profileId ∨
      row = attempt.activated (attempt.inserted job request profileId)) ∧
    attempt.Adds before.environments row after.environments

def Attempt.Raises (attempt : Attempt Uuid) (before : Db Uuid)
    (_ : Failure ProvisioningFailure) (session : Session (Db Uuid)) : Prop :=
  session.aborted = true ∨ attempt.Leaves before session.store

structure Attempt.Activates (attempt : Attempt Uuid) (before after : Db Uuid)
    (job : ProvisioningJob Uuid) (request : DemoRequest Uuid) (profileId : Uuid) : Prop where
  adds : attempt.Adds before.environments
    (attempt.activated (attempt.inserted job request profileId)) after.environments
  seeded : ⟨(attempt.inserted job request profileId).templateId, attempt.draw.tenantId,
    attempt.draw.workspaceId⟩ ∈ after.seeded
  succeeded : ∃ row, after.jobs.lookup attempt.jobId = some row ∧ row.status = .succeeded

/-- Where an attempt returns: it found an environment, or it has created one. -/
def Attempt.Returns (attempt : Attempt Uuid) (before : Db Uuid)
    (sandbox : ProvisionedSandbox Uuid) (session : Session (Db Uuid)) : Prop :=
  session.aborted = false ∧
    ((∃ job row, before.jobs.lookup attempt.jobId = some job ∧
        findExistingEnv before.environments job.demoRequestId = some (sandbox.sandboxId, row) ∧
        session.store = before) ∨
      sandbox.sandboxId = attempt.draw.sandboxId ∧ ∃ job request profileId,
        attempt.Starts before job request profileId ∧
        attempt.Activates before session.store job request profileId)

variable {schema : Schema Uuid} {attempt : Attempt Uuid} {db : Db Uuid} {job : ProvisioningJob Uuid}
  {request : DemoRequest Uuid} {profileId : Uuid}

/-! The assertions between the statements. -/

/-- Nothing has changed but the row of the job. -/
def Attempt.Running (attempt : Attempt Uuid) (before : Db Uuid) (session : Session (Db Uuid)) : Prop :=
  session.store.environments = before.environments ∧
    (session.store.jobs.lookup attempt.jobId).isSome = true

/-- The environment is there. -/
def Attempt.Created (attempt : Attempt Uuid) (before : Db Uuid) (row : SandboxEnvironment Uuid)
    (session : Session (Db Uuid)) : Prop :=
  attempt.Adds before.environments row session.store.environments ∧
    (session.store.jobs.lookup attempt.jobId).isSome = true

theorem raises_refused {failure : Failure ProvisioningFailure} {session : Session (Db Uuid)} :
    attempt.Raises db failure { session with aborted := true } :=
  .inl rfl

private theorem raises_running {failure : Failure ProvisioningFailure} {session : Session (Db Uuid)}
    (running : attempt.Running db session) : attempt.Raises db failure session :=
  .inr (.inl running.1)

theorem raises_created {failure : Failure ProvisioningFailure} {session : Session (Db Uuid)}
    (starts : attempt.Starts db job request profileId)
    (created : attempt.Created db (attempt.inserted job request profileId) session) :
    attempt.Raises db failure session :=
  .inr (.inr ⟨job, request, profileId, _, starts, .inl rfl, created.1⟩)

omit [ToString Uuid] in
theorem meets_updateJob {stage : Stage} {update : JobUpdate Uuid}
    {before after : Session (Db Uuid) → Prop}
    {raised : Failure ProvisioningFailure → Session (Db Uuid) → Prop}
    (stays : ∀ message session, before session → raised (.fault message) session)
    (refused : ∀ message session, before session →
      raised (.fault message) { session with aborted := true })
    (exists_ : ∀ session, before session →
      (session.store.jobs.lookup attempt.jobId).isSome = true)
    (done : ∀ session (row : ProvisioningJob Uuid), before session →
      after { session with
        store := { session.store with
          jobs := session.store.jobs.insert attempt.jobId (row.update update attempt.draw.dbNow) } }) :
    Program.Meets (updateJob attempt stage update) before (fun _ => after) raised := by
  refine Program.meets_statement stays refused fun session value store assumed live effected => ?_
  obtain ⟨-, rfl⟩ := Prod.mk.inj (Except.ok.inj effected)
  cases found : session.store.jobs.lookup attempt.jobId with
  | none =>
    have present := exists_ session assumed
    rw [found] at present
    cases present
  | some row => exact done session row assumed

theorem meets_environmentStatement {stage : Stage}
    {effect : Rows Uuid (SandboxEnvironment Uuid) →
      Except String (Rows Uuid (SandboxEnvironment Uuid))}
    {before after : Session (Db Uuid) → Prop}
    (stays : ∀ failure session, before session → attempt.Raises db failure session)
    (done : ∀ session environments, before session →
      effect session.store.environments = .ok environments →
      after { session with store := { session.store with environments } }) :
    Program.Meets (environmentStatement attempt stage effect) before (fun _ => after)
      (attempt.Raises db) := by
  refine Program.meets_statement (fun _ session assumed => stays _ session assumed)
    (fun _ _ _ => raises_refused) fun session value store assumed _ effected => ?_
  cases written : effect session.store.environments with
  | error message =>
    rw [written] at effected
    cases effected
  | ok environments =>
    rw [written] at effected
    obtain ⟨-, rfl⟩ := Prod.mk.inj (Except.ok.inj effected)
    exact done session environments assumed written

private theorem meets_otherStatement {stage : Stage} {assertion : Session (Db Uuid) → Prop}
    (raises : ∀ failure session, assertion session → attempt.Raises db failure session) :
    Program.Meets (otherStatement attempt stage) assertion (fun _ => assertion)
      (attempt.Raises db) :=
  Program.meets_select (fun _ session assumed => raises _ session assumed)
    (fun _ _ _ => raises_refused) fun _ assumed _ => assumed

omit [ToString Uuid] in
theorem Attempt.Created.update {session : Session (Db Uuid)} {row : SandboxEnvironment Uuid}
    {jobRow : ProvisioningJob Uuid} (created : attempt.Created db row session) :
    attempt.Created db row { session with
      store := { session.store with
        jobs := session.store.jobs.insert attempt.jobId jobRow } } :=
  ⟨created.1, by rw [AList.lookup_insert]; rfl⟩

theorem meets_runProvisioningTransaction (starts : attempt.Starts db job request profileId) :
    Program.Meets
      (runProvisioningTransaction schema attempt job.demoRequestId profileId
        (parametersOf (request.selected job.demoRequestId)))
      (attempt.Running db)
      (fun _ => attempt.Created db (attempt.inserted job request profileId))
      (attempt.Raises db) := by
  have other : ∀ stage, Program.Meets (otherStatement attempt stage) (attempt.Running db)
      (fun _ => attempt.Running db) (attempt.Raises db) := fun _ =>
    meets_otherStatement fun _ _ running => raises_running running
  refine Program.meets_bind (other .createTenant) fun _ => ?_
  refine Program.meets_bind (other .createWorkspace) fun _ => ?_
  refine Program.meets_bind (other .createUser) fun _ => ?_
  refine Program.meets_bind (other .assignRole) fun _ => ?_
  have create : Program.Meets
      (environmentStatement attempt .createEnvironment
        (createEnvironment schema attempt.draw.sandboxId
          (attempt.inserted job request profileId)))
      (attempt.Running db) (fun _ => attempt.Created db (attempt.inserted job request profileId))
      (attempt.Raises db) := by
    refine meets_environmentStatement (fun _ _ running => raises_running running)
      fun session environments running inserted => ?_
    rw [running.1] at inserted
    obtain ⟨rfl, -, fresh, alone⟩ := createEnvironment_ok inserted
    exact ⟨⟨fresh, alone, rfl⟩, running.2⟩
  refine Program.meets_bind create fun _ => ?_
  exact meets_updateJob (fun _ _ created => raises_created starts created)
    (fun _ _ _ => raises_refused) (fun _ created => created.2) fun _ _ created => created.update

private theorem meets_fail {after : Unit → Session (Db Uuid) → Prop} (lastError message : String) :
    Program.Meets (fail attempt lastError message) (attempt.Raises db (.fault message)) after
      (attempt.Raises db) := by
  have marked : Program.Meets
      (updateJob attempt .markFailed
        { status := some .failed, setFinishedAt := true, lastError := some lastError })
      (attempt.Raises db (.fault message)) (fun _ => attempt.Raises db (.fault message))
      (attempt.Raises db) := by
    refine Program.meets_statement (fun _ _ raises => raises) (fun _ _ _ => raises_refused)
      fun session value store raises live effected => ?_
    obtain ⟨-, rfl⟩ := Prod.mk.inj (Except.ok.inj effected)
    rcases raises with aborted | leaves
    · exact nomatch live.symm.trans aborted
    · exact .inr leaves
  exact Program.meets_bind marked fun _ => Program.meets_throw fun _ raises => raises

private theorem meets_seed {row : SandboxEnvironment Uuid}
    (raises : ∀ failure session, attempt.Created db row session →
      attempt.Raises db failure session) (templateId : String) :
    Program.Meets (seed attempt templateId) (attempt.Created db row)
      (fun _ session => attempt.Created db row session ∧
        ⟨templateId, attempt.draw.tenantId, attempt.draw.workspaceId⟩ ∈ session.store.seeded)
      (attempt.Raises db) := by
  have found : Program.Meets
      (.select (attempt.faults .findTemplate) fun store => store.templates.lookup templateId)
      (attempt.Created db row) (fun _ => attempt.Created db row) (attempt.Raises db) :=
    Program.meets_select (fun _ _ created => raises _ _ created) (fun _ _ _ => raises_refused)
      fun _ created _ => created
  refine Program.meets_bind found fun template => ?_
  split
  · exact Program.meets_throw fun _ created => raises _ _ created
  · exact Program.meets_throw fun _ created => raises _ _ created
  · refine Program.meets_statement (fun _ _ created => raises _ _ created)
      (fun _ _ _ => raises_refused) fun session value store created _ effected => ?_
    obtain ⟨-, rfl⟩ := Prod.mk.inj (Except.ok.inj effected)
    exact ⟨created, List.mem_cons_self⟩

private theorem meets_query {α : Type} {stage : Stage} {query : Db Uuid → α} :
    Program.Meets (.select (attempt.faults stage) query) (fun session => session = ⟨db, false⟩)
      (fun value session => value = query db ∧ session = ⟨db, false⟩) (attempt.Raises db) := by
  refine Program.meets_select (fun _ session same => ?_) (fun _ _ _ => raises_refused)
    fun session same _ => ?_
  · subst same
    exact .inr (.inl rfl)
  · subst same
    exact ⟨rfl, rfl⟩

private theorem meets_create (starts : attempt.Starts db job request profileId) :
    Program.Meets
      (do
        updateJob attempt .markRunning
          { status := some .running, setStartedAt := true, incrementAttempt := 1 }
        tryCatch (runProvisioningTransaction schema attempt job.demoRequestId profileId
          (parametersOf (request.selected job.demoRequestId)))
          fun exc => fail attempt (failureText exc) (failureText exc)
        tryCatch (seed attempt (parametersOf (request.selected job.demoRequestId)).templateId)
          fun exc => fail attempt ("seeder: " ++ failureText exc)
            ("Template seeder failed: " ++ failureText exc)
        updateJob attempt .markSucceeded { status := some .succeeded, setFinishedAt := true }
        environmentStatement attempt .activate (updateStatus schema attempt.draw.sandboxId
          { status := .active, setProvisionedAt := true } attempt.draw.dbNow)
        otherStatement attempt .invite
        pure
          { sandboxId := attempt.draw.sandboxId
            row := attempt.inserted job request profileId
            invitation := some (attempt.draw.userId, request.workEmail) })
      (fun session => session = ⟨db, false⟩) (attempt.Returns db) (attempt.Raises db) := by
  have raisesCreated : ∀ failure session,
      attempt.Created db (attempt.inserted job request profileId) session →
      attempt.Raises db failure session := fun _ _ => raises_created starts
  have raisesActivated : ∀ failure session,
      attempt.Activates db session.store job request profileId →
      attempt.Raises db failure session :=
    fun _ _ activated => .inr (.inr ⟨job, request, profileId, _, starts, .inr rfl, activated.adds⟩)
  have running : Program.Meets
      (updateJob attempt .markRunning
        { status := some .running, setStartedAt := true, incrementAttempt := 1 })
      (fun session => session = ⟨db, false⟩) (fun _ => attempt.Running db)
      (attempt.Raises db) := by
    refine meets_updateJob (fun _ session same => ?_) (fun _ _ _ => raises_refused)
      (fun session same => ?_) fun session row same => ?_
    · subst same
      exact .inr (.inl rfl)
    · subst same
      exact Option.isSome_of_eq_some starts.queued
    · subst same
      exact ⟨rfl, by rw [AList.lookup_insert]; rfl⟩
  refine Program.meets_bind running fun _ => ?_
  refine Program.meets_bind (Program.meets_catch (meets_runProvisioningTransaction starts)
    fun exc => meets_fail (failureText exc) (failureText exc)) fun _ => ?_
  refine Program.meets_bind (Program.meets_catch (meets_seed raisesCreated _)
    fun exc => meets_fail ("seeder: " ++ failureText exc)
      ("Template seeder failed: " ++ failureText exc)) fun _ => ?_
  have succeeded : Program.Meets
      (updateJob attempt .markSucceeded { status := some .succeeded, setFinishedAt := true })
      (fun session => attempt.Created db (attempt.inserted job request profileId) session ∧
        ⟨(parametersOf (request.selected job.demoRequestId)).templateId, attempt.draw.tenantId,
          attempt.draw.workspaceId⟩ ∈ session.store.seeded)
      (fun _ session => attempt.Created db (attempt.inserted job request profileId) session ∧
        ⟨(parametersOf (request.selected job.demoRequestId)).templateId, attempt.draw.tenantId,
          attempt.draw.workspaceId⟩ ∈ session.store.seeded ∧
        ∃ row, session.store.jobs.lookup attempt.jobId = some row ∧ row.status = .succeeded)
      (attempt.Raises db) :=
    meets_updateJob (fun _ _ seeded => raisesCreated _ _ seeded.1) (fun _ _ _ => raises_refused)
      (fun _ seeded => seeded.1.2)
      fun _ _ seeded => ⟨seeded.1.update, seeded.2, _, AList.lookup_insert _, rfl⟩
  refine Program.meets_bind succeeded fun _ => ?_
  have activated : Program.Meets
      (environmentStatement attempt .activate (updateStatus schema attempt.draw.sandboxId
        { status := .active, setProvisionedAt := true } attempt.draw.dbNow))
      (fun session => attempt.Created db (attempt.inserted job request profileId) session ∧
        ⟨(parametersOf (request.selected job.demoRequestId)).templateId, attempt.draw.tenantId,
          attempt.draw.workspaceId⟩ ∈ session.store.seeded ∧
        ∃ row, session.store.jobs.lookup attempt.jobId = some row ∧ row.status = .succeeded)
      (fun _ session => attempt.Activates db session.store job request profileId)
      (attempt.Raises db) := by
    refine meets_environmentStatement (fun _ _ ready => raisesCreated _ _ ready.1)
      fun session environments ready written => ?_
    obtain ⟨⟨adds, -⟩, seeded, done⟩ := ready
    refine ⟨⟨adds.fresh, adds.alone, ?_⟩, seeded, done⟩
    obtain ⟨-, ⟨absent, -⟩ | ⟨row, found, rfl, -⟩⟩ := updateStatus_ok written
    · rw [adds.after, AList.lookup_insert] at absent
      cases absent
    · rw [adds.after, AList.lookup_insert] at found
      obtain rfl := Option.some.inj found
      rw [adds.after]
      exact AList.insert_insert _
  refine Program.meets_bind activated fun _ => ?_
  have invited : Program.Meets (otherStatement attempt .invite)
      (fun session => attempt.Activates db session.store job request profileId)
      (fun _ session => session.aborted = false ∧
        attempt.Activates db session.store job request profileId) (attempt.Raises db) :=
    Program.meets_select (fun _ _ ready => raisesActivated _ _ ready) (fun _ _ _ => raises_refused)
      fun _ ready live => ⟨live, ready⟩
  refine Program.meets_bind invited fun _ => ?_
  exact Program.meets_pure fun session ready =>
    ⟨ready.1, .inr ⟨rfl, job, request, profileId, starts, ready.2⟩⟩

theorem meets_provision : Program.Meets (provision schema attempt)
    (fun session => session = ⟨db, false⟩) (attempt.Returns db) (attempt.Raises db) := by
  have refuses : ∀ failure session, session = (⟨db, false⟩ : Session (Db Uuid)) →
      attempt.Raises db failure session := by
    intro failure session same
    subst same
    exact .inr (.inl rfl)
  refine Program.meets_bind meets_query fun found => ?_
  cases found with
  | none => exact Program.meets_throw fun session same => refuses _ session same.2
  | some job =>
    refine Program.meets_of_fact fun queued => ?_
    refine Program.meets_bind meets_query fun found => ?_
    cases found with
    | none => exact Program.meets_throw fun session same => refuses _ session same.2
    | some request =>
      refine Program.meets_of_fact fun asked => ?_
      refine Program.meets_bind meets_query fun found => ?_
      refine Program.meets_of_fact fun existing => ?_
      cases found with
      | some sandbox =>
        refine Program.meets_pure fun session same => ?_
        subst same
        exact ⟨rfl, .inl ⟨job, sandbox.2, queued.symm, existing.symm, rfl⟩⟩
      | none =>
        refine Program.meets_bind meets_query fun found => ?_
        cases found with
        | none => exact Program.meets_throw fun session same => refuses _ session same.2
        | some profileId =>
          refine Program.meets_of_fact fun profiled => ?_
          exact meets_create ⟨queued.symm, asked.symm, existing.symm, profiled.symm⟩

theorem perform_returned {sandbox : ProvisionedSandbox Uuid} {after : Db Uuid}
    (performed : attempt.perform schema db = (some sandbox, after)) :
    (∃ job row, db.jobs.lookup attempt.jobId = some job ∧
        findExistingEnv db.environments job.demoRequestId = some (sandbox.sandboxId, row) ∧
        after = db) ∨
      sandbox.sandboxId = attempt.draw.sandboxId ∧ ∃ job request profileId,
        attempt.Starts db job request profileId ∧
        attempt.Activates db after job request profileId := by
  have meets : Program.Meets (provision schema attempt) (fun session => session = ⟨db, false⟩)
      (attempt.Returns db) (attempt.Raises db) := meets_provision
  have ended := meets ⟨db, false⟩ rfl
  unfold Attempt.perform at performed
  cases ran : provision schema attempt ⟨db, false⟩ with
  | mk result final =>
    rw [ran] at ended performed
    cases result with
    | error failure => cases performed
    | ok returned =>
      obtain ⟨same, rfl⟩ := Prod.mk.inj performed
      obtain rfl := Option.some.inj same
      obtain ⟨live, outcome⟩ := ended
      unfold Session.committed
      rw [live]
      exact outcome

theorem perform_leaves : attempt.Leaves db (attempt.perform schema db).2 := by
  have meets : Program.Meets (provision schema attempt) (fun session => session = ⟨db, false⟩)
      (attempt.Returns db) (attempt.Raises db) := meets_provision
  have ended := meets ⟨db, false⟩ rfl
  unfold Attempt.perform
  cases ran : provision schema attempt ⟨db, false⟩ with
  | mk result final =>
    rw [ran] at ended
    cases result with
    | error failure =>
      change attempt.Leaves db (if attempt.kept then final.committed db else db)
      cases attempt.kept with
      | false => exact .inl rfl
      | true =>
        change attempt.Leaves db (if final.aborted then db else final.store)
        rcases ended with aborted | leaves
        · rw [aborted]
          exact .inl rfl
        · cases final.aborted with
          | true => exact .inl rfl
          | false => exact leaves
    | ok returned =>
      obtain ⟨live, outcome⟩ := ended
      change attempt.Leaves db (if final.aborted then db else final.store)
      rw [live]
      rcases outcome with ⟨_, _, _, _, same⟩ | ⟨-, job, request, profileId, starts, activates⟩
      · exact .inl (congrArg (fun store => store.environments) same)
      · exact .inr ⟨job, request, profileId, _, starts, .inr rfl, activates.adds⟩

end Specification

end CogniDQ.Sandbox
