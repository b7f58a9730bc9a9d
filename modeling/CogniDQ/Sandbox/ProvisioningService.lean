import CogniDQ.Database.Session
import CogniDQ.Protocol.Runs
import CogniDQ.Sandbox.SandboxService

/-!
# Demo requests and their provisioning

The decision on a demo request, and the provisioning of its sandbox. What an attempt writes nobody
else sees before its transaction ends, so an attempt is one step.
-/

set_option autoImplicit false

namespace CogniDQ.Sandbox

open CogniDQ.Database CogniDQ.Protocol CogniDQ.Python

inductive RequestStatus where
  | submitted
  | underReview
  | approved
  | rejected
  | provisioned
  | active
  | expired
  | archived
  | converted
deriving DecidableEq

def RequestStatus.text : RequestStatus → String
  | .submitted => "submitted"
  | .underReview => "under_review"
  | .approved => "approved"
  | .rejected => "rejected"
  | .provisioned => "provisioned"
  | .active => "active"
  | .expired => "expired"
  | .archived => "archived"
  | .converted => "converted"

structure DemoRequest (Uuid : Type) where
  status : RequestStatus
  workEmail : String
  firstName : String
  lastName : String
  companyName : String
  adminTags : List String
  internalNote : Option String
  rejectionReason : Option String
  decidedBy : Option Uuid
  decidedAt : Option Int

inductive JobStatus where
  | pending
  | running
  | succeeded
  | failed
deriving DecidableEq

structure ProvisioningJob (Uuid : Type) where
  demoRequestId : Uuid
  sandboxId : Option Uuid
  status : JobStatus
  attemptCount : Int
  lastError : Option String
  startedAt : Option Int
  finishedAt : Option Int

structure Approval where
  templateId : String
  durationDays : Int
  accessProfileCode : String
  tags : Option (List String)
  internalNote : Option String
deriving DecidableEq

structure Seeding (Uuid : Type) where
  templateId : String
  tenantId : Uuid
  workspaceId : Uuid
deriving DecidableEq

structure Db (Uuid : Type) extends Sandboxes Uuid where
  requests : Rows Uuid (DemoRequest Uuid)
  jobs : Rows Uuid (ProvisioningJob Uuid)
  /-- The identifiers of the access profiles, by their unique codes. -/
  profiles : Rows String Uuid
  /-- The seeder modules of the demo templates. -/
  templates : Rows String String
  /-- The seedings that are complete. -/
  seeded : List (Seeding Uuid)

/-! ### Approval -/

def validDurationDays : List Int := [3, 7, 10, 14]

def validAdminTags : List String :=
  ["high_intent", "enterprise_target", "low_priority", "follow_up_later", "competitor_research"]

def sortedAdminTags : List String :=
  ["competitor_research", "enterprise_target", "follow_up_later", "high_intent", "low_priority"]

/-- `validate_approval`: the fields with their messages. -/
def validateApproval (runtime : Runtime) (approval : Approval)
    (templateIdExists accessProfileCodeExists : String → Bool) : List (String × String) :=
  (if runtime.stripStr approval.templateId = "" then
      [("template_id", "Template ID is required.")]
    else if !templateIdExists approval.templateId then
      [("template_id",
        "Template '" ++ approval.templateId ++ "' does not exist or is disabled.")]
    else []) ++
  (if !(validDurationDays.contains approval.durationDays) then
      [("duration_days", "Duration must be one of [3, 7, 10, 14] days.")]
    else []) ++
  (if runtime.stripStr approval.accessProfileCode = "" then
      [("access_profile_code", "Access profile code is required.")]
    else if !accessProfileCodeExists approval.accessProfileCode then
      [("access_profile_code",
        "Access profile '" ++ approval.accessProfileCode ++ "' does not exist or is disabled.")]
    else []) ++
  let invalidTags := (approval.tags.getD []).filter fun tag => !(validAdminTags.contains tag)
  if invalidTags.isEmpty then []
  else
    [("tags", "Unknown tag(s): " ++ runtime.repr (.list (invalidTags.map .str)) ++ ". Allowed: " ++
      runtime.repr (.list (sortedAdminTags.map .str)))]

/-- `DemoRequestRepository.update_status`, on a `status` that is a string, as in the ORM model. -/
def DemoRequest.updateStatus {Uuid : Type} (row : DemoRequest Uuid) (status : RequestStatus)
    (decidedBy : Uuid) (rejectionReason internalNote : Option String)
    (adminTags : Option (List String)) (now : Int) : DemoRequest Uuid :=
  { row with
    status
    decidedBy := some decidedBy
    decidedAt := some now
    rejectionReason := rejectionReason.or row.rejectionReason
    internalNote := internalNote.or row.internalNote
    adminTags := adminTags.getD row.adminTags }

/-! ### Provisioning -/

inductive ProvisioningFailure where
  | provisioning (message : String)
  | seeding (message : String)

def failureText : Failure ProvisioningFailure → String
  | .fault message => message
  | .error (.provisioning message) => message
  | .error (.seeding message) => message

/-- The statements of an attempt, and what else in it may raise. -/
inductive Stage where
  | findJob
  | findRequest
  | findEnvironment
  | findProfile
  | markRunning
  | createTenant
  | createWorkspace
  | createUser
  | assignRole
  | createEnvironment
  | linkJob
  | findTemplate
  | seed
  | markSucceeded
  | activate
  | invite
  | markFailed
deriving DecidableEq

/-- What an attempt is given: fresh identifiers, its time, and `NOW()` of its transaction. -/
structure Draw (Uuid : Type) where
  tenantId : Uuid
  workspaceId : Uuid
  userId : Uuid
  sandboxId : Uuid
  now : Int
  dbNow : Int

structure JobUpdate (Uuid : Type) where
  status : Option JobStatus := none
  incrementAttempt : Int := 0
  lastError : Option String := none
  setStartedAt : Bool := false
  setFinishedAt : Bool := false
  sandboxId : Option Uuid := none

/-- The sandbox that `provision` returns: the row it read, with the user and the address that an
invitation was signed for. -/
structure ProvisionedSandbox (Uuid : Type) where
  sandboxId : Uuid
  row : SandboxEnvironment Uuid
  invitation : Option (Uuid × String)

structure Attempt (Uuid : Type) where
  jobId : Uuid
  draw : Draw Uuid
  faults : Stage → Option Fault
  /-- What an attempt wrote before it raised is kept. `provision_sandbox_task` closes the session,
  which rolls it back. -/
  kept : Bool

section Provisioning

variable {Uuid : Type}

def stringOr (value : Value) (default : String) : String :=
  match value with
  | .str text => if text = "" then default else text
  | _ => default

/-- `value or default`, where an integer is stored. -/
def intOr (value : Value) (default : Int) : Int :=
  match value with
  | .int number => if number = 0 then default else number
  | _ => default

def ProvisioningJob.update (row : ProvisioningJob Uuid) (update : JobUpdate Uuid) (now : Int) :
    ProvisioningJob Uuid :=
  { row with
    status := update.status.getD row.status
    attemptCount := row.attemptCount + update.incrementAttempt
    lastError := update.lastError.or row.lastError
    startedAt := if update.setStartedAt then some now else row.startedAt
    finishedAt := if update.setFinishedAt then some now else row.finishedAt
    sandboxId := update.sandboxId.or row.sandboxId }

structure Parameters where
  templateId : String
  accessProfileCode : String
  durationDays : Int
deriving DecidableEq

/-- What the fallbacks of `provision` read from the row of a request. -/
def parametersOf (row : Dict) : Parameters where
  templateId := stringOr (row.get "template_id") "general_dq"
  accessProfileCode := stringOr (row.get "access_profile_code") "mvp_default"
  durationDays := intOr (row.get "duration_days") 7

variable [ToString Uuid]

/-- The columns of `_FIND_BY_ID_SQL`. -/
def DemoRequest.selected (requestId : Uuid) (row : DemoRequest Uuid) : Dict :=
  let text (value : Option String) : Value := (value.map Value.str).getD .none
  [("id", .str (toString requestId)),
    ("status", .str row.status.text),
    ("work_email", .str row.workEmail),
    ("first_name", .str row.firstName),
    ("last_name", .str row.lastName),
    ("company_name", .str row.companyName),
    ("admin_tags", .list (row.adminTags.map .str)),
    ("internal_note", text row.internalNote),
    ("rejection_reason", text row.rejectionReason),
    ("decided_by", text (row.decidedBy.map toString)),
    ("decided_at", (row.decidedAt.map Value.int).getD .none)]

variable [DecidableEq Uuid]

def findExistingEnv (environments : Rows Uuid (SandboxEnvironment Uuid)) (requestId : Uuid) :
    Option (EnvironmentRow Uuid) :=
  (environmentRows environments).find? fun row =>
    decide (row.2.demoRequestId = requestId) && !([.deleted, .archived].contains row.2.status)

abbrev Provision (Uuid α : Type) : Type := Program (Db Uuid) ProvisioningFailure α

namespace ProvisioningService

variable (schema : Schema Uuid) (attempt : Attempt Uuid)

def environmentStatement (stage : Stage)
    (effect : Rows Uuid (SandboxEnvironment Uuid) →
      Except String (Rows Uuid (SandboxEnvironment Uuid))) : Provision Uuid Unit :=
  .statement (attempt.faults stage) fun db =>
    (effect db.environments).map fun environments => ((), { db with environments })

/-- A statement whose effect is on tables that nothing here reads. -/
def otherStatement (stage : Stage) : Provision Uuid Unit :=
  .select (attempt.faults stage) fun _ => ()

def updateJob (stage : Stage) (update : JobUpdate Uuid) : Provision Uuid Unit :=
  .statement (attempt.faults stage) fun db =>
    .ok ((), { db with
      jobs :=
        match db.jobs.lookup attempt.jobId with
        | none => db.jobs
        | some row => db.jobs.insert attempt.jobId (row.update update attempt.draw.dbNow) })

def newEnvironment (requestId profileId : Uuid) (parameters : Parameters) :
    SandboxEnvironment Uuid where
  demoRequestId := requestId
  tenantId := attempt.draw.tenantId
  workspaceId := attempt.draw.workspaceId
  templateId := parameters.templateId
  accessProfileId := profileId
  status := .provisioning
  provisionedAt := none
  expiresAt := some (attempt.draw.now + days parameters.durationDays)
  suspendedAt := none
  archivedAt := none
  deletedAt := none
  extensionCount := 0

def runProvisioningTransaction (requestId profileId : Uuid) (parameters : Parameters) :
    Provision Uuid Unit := do
  otherStatement attempt .createTenant
  otherStatement attempt .createWorkspace
  otherStatement attempt .createUser
  otherStatement attempt .assignRole
  environmentStatement attempt .createEnvironment
    (createEnvironment schema attempt.draw.sandboxId
      (newEnvironment attempt requestId profileId parameters))
  updateJob attempt .linkJob { sandboxId := some attempt.draw.sandboxId }

def seed (templateId : String) : Provision Uuid Unit := do
  let template ← .select (attempt.faults .findTemplate) fun db => db.templates.lookup templateId
  match template with
  | none => throw (.error (.seeding ("Demo template '" ++ templateId ++ "' not found.")))
  | some "" =>
    throw (.error (.seeding
      ("Demo template '" ++ templateId ++ "' has no seeder_module configured.")))
  | some _ =>
    .statement (attempt.faults .seed) fun db =>
      .ok ((), { db with
        seeded := ⟨templateId, attempt.draw.tenantId, attempt.draw.workspaceId⟩ :: db.seeded })

/-- The handlers of `provision` mark the job as failed and raise. -/
def fail (lastError message : String) : Provision Uuid Unit := do
  updateJob attempt .markFailed
    { status := some .failed, setFinishedAt := true, lastError := some lastError }
  throw (.error (.provisioning message))

def provision : Provision Uuid (ProvisionedSandbox Uuid) := do
  let job ← .select (attempt.faults .findJob) fun db => db.jobs.lookup attempt.jobId
  match job with
  | none =>
    throw (.error (.provisioning
      ("Provisioning job " ++ toString attempt.jobId ++ " not found.")))
  | some job =>
  let request ← .select (attempt.faults .findRequest) fun db =>
    db.requests.lookup job.demoRequestId
  match request with
  | none =>
    throw (.error (.provisioning
      ("Demo request " ++ toString job.demoRequestId ++ " not found.")))
  | some request =>
  let existing ← .select (attempt.faults .findEnvironment) fun db =>
    findExistingEnv db.environments job.demoRequestId
  match existing with
  | some (sandboxId, row) => pure { sandboxId, row, invitation := none }
  | none =>
  let parameters := parametersOf (request.selected job.demoRequestId)
  let profile ← .select (attempt.faults .findProfile) fun db =>
    db.profiles.lookup parameters.accessProfileCode
  match profile with
  | none =>
    throw (.error (.provisioning
      ("Access profile '" ++ parameters.accessProfileCode ++ "' not found.")))
  | some profileId =>
  updateJob attempt .markRunning
    { status := some .running, setStartedAt := true, incrementAttempt := 1 }
  tryCatch (runProvisioningTransaction schema attempt job.demoRequestId profileId parameters)
    fun exc => fail attempt (failureText exc) (failureText exc)
  tryCatch (seed attempt parameters.templateId) fun exc =>
    fail attempt ("seeder: " ++ failureText exc) ("Template seeder failed: " ++ failureText exc)
  updateJob attempt .markSucceeded { status := some .succeeded, setFinishedAt := true }
  environmentStatement attempt .activate (updateStatus schema attempt.draw.sandboxId
    { status := .active, setProvisionedAt := true } attempt.draw.dbNow)
  otherStatement attempt .invite
  pure
    { sandboxId := attempt.draw.sandboxId
      row := newEnvironment attempt job.demoRequestId profileId parameters
      invitation := some (attempt.draw.userId, request.workEmail) }

end ProvisioningService

/-- The sandbox that an attempt returns, if it does not raise, and what is committed at its end. -/
def Attempt.perform (attempt : Attempt Uuid) (schema : Schema Uuid) (db : Db Uuid) :
    Option (ProvisionedSandbox Uuid) × Db Uuid :=
  match ProvisioningService.provision schema attempt ⟨db, false⟩ with
  | (.ok sandbox, final) => (some sandbox, final.committed db)
  | (.error _, final) => (none, if attempt.kept then final.committed db else db)

end Provisioning

/-! ### Runs -/

structure Provisioning (Uuid : Type) where
  jobId : Uuid
  decision : RequestStatus
  now : Int
  row : SandboxEnvironment Uuid
  /-- What was approved for the job. -/
  approval : Option Approval
  profiles : Rows String Uuid

structure World (Uuid : Type) where
  db : Db Uuid
  /-- What was approved when `approve_request` created the jobs. -/
  approvals : Rows Uuid Approval
  provisionings : List (Provisioning Uuid)
  /-- The job and the sandbox that the last step returned normally with. -/
  returned : Option (Uuid × Uuid)

inductive Action (Uuid : Type) where
  | submit (requestId : Uuid) (workEmail firstName lastName companyName : String)
  | approve (requestId jobId decidedBy : Uuid) (approval : Approval) (now : Int)
  | reject (requestId decidedBy : Uuid) (reason : String) (internalNote : Option String) (now : Int)
  | serve (call : Call Uuid)
  | provision (attempt : Attempt Uuid)

section Steps

variable {Uuid : Type} [DecidableEq Uuid] [ToString Uuid] (byExpiry : ByExpiry Uuid)
  (byArchival : ByArchival Uuid) (runtime : Runtime) (schema : Schema Uuid)

namespace World

variable (world : World Uuid)

def approve (requestId jobId decidedBy : Uuid) (approval : Approval) (now : Int) :
    Option (World Uuid) :=
  match world.db.requests.lookup requestId with
  | none => none
  | some row =>
    if validateApproval runtime approval (fun id => (world.db.templates.lookup id).isSome)
        (fun code => (world.db.profiles.lookup code).isSome) = [] ∧
        world.db.jobs.lookup jobId = none then
      some { world with
        db := { world.db with
          requests := world.db.requests.insert requestId
            (row.updateStatus .approved decidedBy none approval.internalNote
              (some (approval.tags.getD [])) now)
          jobs := world.db.jobs.insert jobId
            { demoRequestId := requestId
              sandboxId := none
              status := .pending
              attemptCount := 0
              lastError := none
              startedAt := none
              finishedAt := none } }
        approvals := world.approvals.insert jobId approval
        returned := none }
    else none

def reject (requestId decidedBy : Uuid) (reason : String) (internalNote : Option String)
    (now : Int) : World Uuid :=
  { world with
    db := { world.db with
      requests :=
        match world.db.requests.lookup requestId with
        | none => world.db.requests
        | some row => world.db.requests.insert requestId
            (row.updateStatus .rejected decidedBy (some reason) internalNote none now) }
    returned := none }

/-- The environment that an attempt has committed, if it created one. -/
def created (attempt : Attempt Uuid) (after : Db Uuid) : Option (Provisioning Uuid) :=
  match world.db.environments.lookup attempt.draw.sandboxId,
      after.environments.lookup attempt.draw.sandboxId, world.db.jobs.lookup attempt.jobId with
  | none, some row, some job =>
    (world.db.requests.lookup job.demoRequestId).map fun request =>
      { jobId := attempt.jobId
        decision := request.status
        now := attempt.draw.now
        row
        approval := world.approvals.lookup attempt.jobId
        profiles := world.db.profiles }
  | _, _, _ => none

def provision (attempt : Attempt Uuid) : World Uuid :=
  let (sandbox, after) := attempt.perform schema world.db
  { world with
    db := after
    provisionings := world.provisionings ++ (world.created attempt after).toList
    returned := sandbox.map fun sandbox => (attempt.jobId, sandbox.sandboxId) }

def step : Action Uuid → Option (World Uuid)
  | .submit requestId workEmail firstName lastName companyName =>
    if world.db.requests.lookup requestId = none then
      some { world with
        db := { world.db with
          requests := world.db.requests.insert requestId
            { status := .submitted
              workEmail
              firstName
              lastName
              companyName
              adminTags := []
              internalNote := none
              rejectionReason := none
              decidedBy := none
              decidedAt := none } }
        returned := none }
    else none
  | .approve requestId jobId decidedBy approval now =>
    world.approve runtime requestId jobId decidedBy approval now
  | .reject requestId decidedBy reason internalNote now =>
    some (world.reject requestId decidedBy reason internalNote now)
  | .serve call =>
    some { world with
      db := { world.db with
        toSandboxes := call.after byExpiry byArchival runtime schema world.db.toSandboxes }
      returned := none }
  | .provision attempt => some (world.provision schema attempt)

end World

end Steps

end CogniDQ.Sandbox
