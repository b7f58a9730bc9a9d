import CogniDQ.Sandbox.Provisioning

/-!
# Retried provisioning

Attempts that return have left an active, seeded sandbox and a job that succeeded, as long as the
environments that they find are so already. There is one environment for each request in any case,
and no attempt writes an environment that was there before.
-/

set_option autoImplicit false

namespace CogniDQ.Sandbox

open CogniDQ.Database CogniDQ.Protocol CogniDQ.Python

section Law

variable {Uuid : Type} [DecidableEq Uuid]

def Db.Finished (db : Db Uuid) (jobId sandboxId : Uuid) : Prop :=
  ∃ row job, db.environments.lookup sandboxId = some row ∧ row.status = .active ∧
    ⟨row.templateId, row.tenantId, row.workspaceId⟩ ∈ db.seeded ∧
    db.jobs.lookup jobId = some job ∧ job.status = .succeeded

def Db.Single (db : Db Uuid) : Prop :=
  ∀ sandboxId other row version, db.environments.lookup sandboxId = some row →
    db.environments.lookup other = some version → row.demoRequestId = version.demoRequestId →
    sandboxId = other

/-- No suspended, archived or deleted environment gets active. -/
def Unresumed (before after : Rows Uuid (SandboxEnvironment Uuid)) : Prop :=
  ∀ sandboxId row version, before.lookup sandboxId = some row →
    [.suspended, .archived, .deleted].contains row.status = true →
    after.lookup sandboxId = some version → version.status ≠ .active

structure World.Retryable (schema : Schema Uuid) [ToString Uuid] (world : World Uuid) : Prop where
  returned : ∀ jobId sandboxId, world.returned = some (jobId, sandboxId) →
    world.db.Finished jobId sandboxId
  single : ∀ sandboxId other row version, world.db.environments.lookup sandboxId = some row →
    world.db.environments.lookup other = some version → row.status ≠ .deleted →
    version.status ≠ .deleted → row.demoRequestId = version.demoRequestId → sandboxId = other
  unresumed : ∀ attempt,
    Unresumed world.db.environments (world.provision schema attempt).db.environments

def World.careful (world : World Uuid) : Action Uuid → Bool
  | .provision attempt =>
    (world.db.jobs.lookup attempt.jobId).all fun job =>
      (findExistingEnv world.db.environments job.demoRequestId).all fun found =>
        decide (found.2.status = .active) && decide (job.status = .succeeded) &&
          world.db.seeded.contains ⟨found.2.templateId, found.2.tenantId, found.2.workspaceId⟩
  | _ => true

structure World.Kept (world : World Uuid) : Prop where
  single : world.db.Single
  returned : ∀ jobId sandboxId, world.returned = some (jobId, sandboxId) →
    world.db.Finished jobId sandboxId

variable [ToString Uuid] {byExpiry : ByExpiry Uuid} {byArchival : ByArchival Uuid}
  {runtime : Runtime} {schema : Schema Uuid} {world next : World Uuid} {attempt : Attempt Uuid}
  {db after : Db Uuid}

omit [DecidableEq Uuid] [ToString Uuid] in
private theorem SandboxEnvironment.Moves.demoRequestId {row moved : SandboxEnvironment Uuid}
    (moves : row.Moves schema moved) : moved.demoRequestId = row.demoRequestId := by
  cases moves with
  | same | extended | updated | expired => rfl

omit [ToString Uuid] in
private theorem Db.Single.follows {sandboxes : Sandboxes Uuid} (single : db.Single)
    (follows : db.toSandboxes.Follows schema sandboxes) :
    ({ db with toSandboxes := sandboxes } : Db Uuid).Single := by
  have back : ∀ sandboxId row, sandboxes.environments.lookup sandboxId = some row →
      ∃ earlier, db.environments.lookup sandboxId = some earlier ∧
        row.demoRequestId = earlier.demoRequestId := by
    intro sandboxId row found
    have relates := follows sandboxId
    rw [found] at relates
    cases before : db.environments.lookup sandboxId with
    | none =>
      rw [before] at relates
      cases relates
    | some earlier =>
      rw [before] at relates
      cases relates with
      | some moves => exact ⟨earlier, rfl, moves.demoRequestId⟩
  intro sandboxId other row version found present same
  obtain ⟨earlier, before, request⟩ := back sandboxId row found
  obtain ⟨earlierOther, beforeOther, requestOther⟩ := back other version present
  exact single sandboxId other earlier earlierOther before beforeOther
    (request.symm.trans (same.trans requestOther))

private theorem Db.Single.leaves (single : db.Single) (leaves : attempt.Leaves db after) :
    after.Single := by
  intro sandboxId other row version found present same
  rcases leaves with unchanged | ⟨_, _, _, added, _, _, adds⟩
  · rw [unchanged] at found present
    exact single sandboxId other row version found present same
  · rw [adds.after] at found present
    rcases Rows.lookup_insert_cases found with ⟨mine, rfl⟩ | ⟨-, before⟩
    · rcases Rows.lookup_insert_cases present with ⟨alsoMine, -⟩ | ⟨-, beforeOther⟩
      · exact mine.trans alsoMine.symm
      · exact absurd same.symm (adds.alone other version beforeOther)
    · rcases Rows.lookup_insert_cases present with ⟨-, rfl⟩ | ⟨-, beforeOther⟩
      · exact absurd same (adds.alone sandboxId row before)
      · exact single sandboxId other row version before beforeOther same

private theorem unresumed_of_leaves (leaves : attempt.Leaves db after) :
    Unresumed db.environments after.environments := by
  intro sandboxId row version found stopped present active
  have unwritten : version = row := by
    rcases leaves with unchanged | ⟨_, _, _, added, _, _, adds⟩
    · rw [unchanged, found] at present
      exact (Option.some.inj present).symm
    · rw [adds.after] at present
      rcases Rows.lookup_insert_cases present with ⟨mine, -⟩ | ⟨-, before⟩
      · subst mine
        exact nomatch adds.fresh.symm.trans found
      · exact Option.some.inj (before.symm.trans found)
  rw [← unwritten, active] at stopped
  cases stopped

omit [DecidableEq Uuid] [ToString Uuid] in
theorem findExistingEnv_some [DecidableEq Uuid] {environments : Rows Uuid (SandboxEnvironment Uuid)}
    {requestId : Uuid} {found : EnvironmentRow Uuid}
    (existing : findExistingEnv environments requestId = some found) :
    environments.lookup found.1 = some found.2 :=
  mem_environmentRows.mp (List.mem_of_find?_eq_some existing)

private theorem finished_of_returned {sandbox : ProvisionedSandbox Uuid}
    (careful : world.careful (.provision attempt) = true)
    (performed : attempt.perform schema world.db = (some sandbox, after)) :
    after.Finished attempt.jobId sandbox.sandboxId := by
  rcases perform_returned performed with
    ⟨job, row, queued, existing, rfl⟩ | ⟨same, job, request, profileId, starts, activates⟩
  · dsimp only [World.careful] at careful
    rw [queued, Option.all_some, existing, Option.all_some] at careful
    obtain ⟨statuses, seeded⟩ := Bool.and_eq_true_iff.mp careful
    obtain ⟨active, succeeded⟩ := Bool.and_eq_true_iff.mp statuses
    exact ⟨row, job, findExistingEnv_some existing, of_decide_eq_true active,
      List.contains_iff_mem.mp seeded, queued, of_decide_eq_true succeeded⟩
  · obtain ⟨jobRow, stored, succeeded⟩ := activates.succeeded
    refine ⟨attempt.activated (attempt.inserted job request profileId), jobRow, ?_, rfl,
      activates.seeded, stored, succeeded⟩
    rw [same, activates.adds.after, AList.lookup_insert]

private theorem World.Kept.step (kept : world.Kept) {action : Action Uuid}
    (careful : world.careful action = true)
    (stepped : world.step byExpiry byArchival runtime schema action = some next) : next.Kept := by
  cases action with
  | submit requestId workEmail firstName lastName companyName =>
    dsimp only [World.step] at stepped
    split_ifs at stepped
    obtain rfl := Option.some.inj stepped
    exact ⟨kept.single, fun _ _ returned => nomatch returned⟩
  | approve requestId jobId decidedBy approval now =>
    dsimp only [World.step, World.approve] at stepped
    split at stepped
    · cases stepped
    · split_ifs at stepped
      obtain rfl := Option.some.inj stepped
      exact ⟨kept.single, fun _ _ returned => nomatch returned⟩
  | reject requestId decidedBy reason internalNote now =>
    obtain rfl := Option.some.inj stepped
    exact ⟨kept.single, fun _ _ returned => nomatch returned⟩
  | serve call =>
    obtain rfl := Option.some.inj stepped
    exact ⟨kept.single.follows (follows_after byExpiry byArchival call),
      fun _ _ returned => nomatch returned⟩
  | provision attempt =>
    obtain rfl := Option.some.inj stepped
    refine ⟨kept.single.leaves perform_leaves, fun jobId sandboxId returned => ?_⟩
    cases performed : attempt.perform schema world.db with
    | mk sandbox after =>
      unfold World.provision at returned ⊢
      rw [performed] at returned ⊢
      cases sandbox with
      | none => cases returned
      | some sandbox =>
        obtain ⟨rfl, rfl⟩ := Prod.mk.inj (Option.some.inj returned)
        exact finished_of_returned careful performed

private theorem World.Kept.retryable (kept : world.Kept) : world.Retryable schema where
  returned := kept.returned
  single sandboxId other row version found present _ _ same :=
    kept.single sandboxId other row version found present same
  unresumed _ := unresumed_of_leaves perform_leaves

/-- Provisioning is safely retryable as long as the environments that it finds are finished. -/
theorem provisioning_safely_retryable {start reached : World Uuid} {schedule : List (Action Uuid)}
    (single : start.db.Single) (begun : start.returned = none)
    (careful : RunMeets (World.step byExpiry byArchival runtime schema)
      (fun world action => world.careful action = true) start schedule)
    (ran : run (World.step byExpiry byArchival runtime schema) start schedule = some reached) :
    reached.Retryable schema := by
  have keptStart : start.Kept := ⟨single, fun _ _ returned => nomatch begun.symm.trans returned⟩
  have kept : reached.Kept :=
    run_preserves (fun _ _ _ (kept : World.Kept _) careful stepped => kept.step careful stepped)
      keptStart careful ran
  exact kept.retryable

end Law

/-! Attempts for one request. -/

private def noRequests : World Nat where
  db :=
    { environments := ∅
      extensions := []
      requests := ∅
      jobs := ∅
      profiles := (∅ : Rows String Nat).insert "mvp_default" 40
      templates := (∅ : Rows String String).insert "general_dq"
        "app.services.demo.templates.general_dq"
      seeded := [] }
  approvals := ∅
  provisionings := []
  returned := none

private def defaultApproval : Approval where
  templateId := "general_dq"
  durationDays := 7
  accessProfileCode := "mvp_default"
  tags := none
  internalNote := none

private def approvedRequest : List (Action Nat) :=
  [.submit 10 "alice@example.com" "Alice" "Smith" "Acme", .approve 10 1 99 defaultApproval 0]

def attemptOf (jobId base : Nat) (faults : Stage → Option Fault) (kept : Bool) : Action Nat :=
  .provision
    { jobId
      draw :=
        { tenantId := base
          workspaceId := base + 1
          userId := base + 2
          sandboxId := base + 3
          now := days 1
          dbNow := days 1 }
      faults
      kept }

private def seederFails : Stage → Option Fault
  | .seed => some (.raised "seeder boom")
  | _ => none

private abbrev demoStep (schema : Schema Nat) : World Nat → Action Nat → Option (World Nat) :=
  World.step (OrderBy.stable _) (OrderBy.stable _) .ascii schema

/-- A failed attempt that was rolled back, one that returns, and a retry of the finished job. -/
private def rolledBackAttempt : List (Action Nat) :=
  approvedRequest ++ [attemptOf 1 100 seederFails false, attemptOf 1 200 (fun _ => none) false,
    attemptOf 1 300 (fun _ => none) false]

theorem finished_job_retryable :
    ∃ reached, run (demoStep (withLastError Nat)) noRequests rolledBackAttempt = some reached ∧
      reached.returned = some (1, 203) ∧ reached.Retryable (withLastError Nat) := by
  have careful : RunMeets (demoStep (withLastError Nat))
      (fun world action => world.careful action = true) noRequests rolledBackAttempt := by
    decide +kernel
  have single : noRequests.db.Single := fun _ _ _ _ found => nomatch found
  exact ⟨_, rfl, rfl, provisioning_safely_retryable single rfl careful rfl⟩

/-- After a kept attempt whose seeder failed, the retry returns the unseeded sandbox, also on tables
without the column `last_error`; and rolled-back attempts do not help a sandbox that was suspended, or
the job of a second approval. The approvals are those of a `status` column of text: the type that
`approve_request` casts to, and that the model class declares. -/
theorem retries_unfinished :
    (∃ reached, run (demoStep (migration040 Nat)) noRequests
        (approvedRequest ++ [attemptOf 1 100 seederFails true,
          attemptOf 1 200 (fun _ => none) true]) = some reached ∧
      reached.returned = some (1, 103) ∧ ¬reached.Retryable (migration040 Nat)) ∧
    (∃ reached, run (demoStep (withLastError Nat)) noRequests
        (approvedRequest ++ [attemptOf 1 100 (fun _ => none) false, .serve (.suspend 103 (days 2)),
          attemptOf 1 200 (fun _ => none) false]) = some reached ∧
      reached.returned = some (1, 103) ∧ ¬reached.Retryable (withLastError Nat)) ∧
    ∃ reached, run (demoStep (withLastError Nat)) noRequests
        (approvedRequest ++ [attemptOf 1 100 (fun _ => none) false, .approve 10 2 99 defaultApproval 0,
          attemptOf 2 200 (fun _ => none) false]) = some reached ∧
      reached.returned = some (2, 103) ∧ ¬reached.Retryable (withLastError Nat) := by
  refine ⟨⟨_, rfl, rfl, fun retryable => ?_⟩, ⟨_, rfl, rfl, fun retryable => ?_⟩,
    ⟨_, rfl, rfl, fun retryable => ?_⟩⟩
  · obtain ⟨_, _, found, active, -⟩ := retryable.returned 1 103 rfl
    obtain rfl := Option.some.inj found
    cases active
  · obtain ⟨_, _, found, active, -⟩ := retryable.returned 1 103 rfl
    obtain rfl := Option.some.inj found
    cases active
  · obtain ⟨_, _, -, -, -, queued, succeeded⟩ := retryable.returned 2 103 rfl
    obtain rfl := Option.some.inj queued
    cases succeeded

end CogniDQ.Sandbox

/-!
## What is approved and what is provisioned

`approve_request` stores none of the approved parameters, and `provision` reads no decision: every
sandbox gets the defaults, whatever was approved and whether the request was rejected since.
-/

namespace CogniDQ.Sandbox

open CogniDQ.Database CogniDQ.Protocol CogniDQ.Python

section Law

variable {Uuid : Type}

/-- The sandbox has the approved template, duration and access profile, and its request is not
rejected. -/
structure Provisioning.AsApproved (provisioning : Provisioning Uuid) : Prop where
  decision : provisioning.decision ≠ .rejected
  parameters : ∀ approval, provisioning.approval = some approval →
    provisioning.row.templateId = approval.templateId ∧
    provisioning.row.expiresAt = some (provisioning.now + days approval.durationDays) ∧
    provisioning.profiles.lookup approval.accessProfileCode =
      some provisioning.row.accessProfileId

/-- The fallbacks of `provision`. -/
def defaultParameters : Parameters where
  templateId := "general_dq"
  accessProfileCode := "mvp_default"
  durationDays := 7

/-- The request is not rejected, and the defaults were approved, under whatever code of the
profile. -/
def Provisioning.Default (provisioning : Provisioning Uuid) : Prop :=
  provisioning.decision ≠ .rejected ∧ ∀ approval, provisioning.approval = some approval →
    approval.templateId = defaultParameters.templateId ∧
    approval.durationDays = defaultParameters.durationDays ∧
    provisioning.profiles.lookup approval.accessProfileCode =
      provisioning.profiles.lookup defaultParameters.accessProfileCode

variable [ToString Uuid] {requestId : Uuid} {request : DemoRequest Uuid}

theorem parametersOf_selected : parametersOf (request.selected requestId) = defaultParameters :=
  rfl

variable [DecidableEq Uuid] {byExpiry : ByExpiry Uuid} {byArchival : ByArchival Uuid}
  {runtime : Runtime} {schema : Schema Uuid} {world next : World Uuid} {attempt : Attempt Uuid}
  {after : Db Uuid} {provisioning : Provisioning Uuid}

private theorem created_parameters (leaves : attempt.Leaves world.db after)
    (created : world.created attempt after = some provisioning) :
    provisioning.row.templateId = defaultParameters.templateId ∧
      provisioning.row.expiresAt = some (provisioning.now + days defaultParameters.durationDays) ∧
      provisioning.profiles.lookup defaultParameters.accessProfileCode =
        some provisioning.row.accessProfileId := by
  unfold World.created at created
  split at created
  · rename_i row queued fresh present found
    obtain ⟨request, -, rfl⟩ := Option.map_eq_some_iff.mp created
    rcases leaves with unchanged | ⟨job, asked, profileId, added, starts, shape, adds⟩
    · rw [unchanged, fresh] at present
      cases present
    · rw [adds.after, AList.lookup_insert] at present
      obtain rfl := Option.some.inj present
      have profiled := starts.profiled
      rw [parametersOf_selected] at profiled
      rcases shape with rfl | rfl
      · exact ⟨rfl, rfl, profiled⟩
      · exact ⟨rfl, rfl, profiled⟩
  · cases created

theorem days_injective {count other now : Int} (same : now + days count = now + days other) :
    count = other := by
  unfold days at same
  omega

/-- A created sandbox is as approved exactly if the defaults were approved and the request is not
rejected. -/
theorem created_iff (leaves : attempt.Leaves world.db after)
    (created : world.created attempt after = some provisioning) :
    provisioning.AsApproved ↔ provisioning.Default := by
  obtain ⟨template, expiry, profile⟩ := created_parameters leaves created
  constructor
  · intro asApproved
    refine ⟨asApproved.decision, fun approval supplied => ?_⟩
    obtain ⟨sameTemplate, sameExpiry, sameProfile⟩ := asApproved.parameters approval supplied
    refine ⟨sameTemplate.symm.trans template, ?_, sameProfile.trans profile.symm⟩
    exact days_injective (Option.some.inj (sameExpiry.symm.trans expiry))
  · intro default
    obtain ⟨decision, parameters⟩ := default
    refine ⟨decision, fun approval supplied => ?_⟩
    obtain ⟨sameTemplate, sameDays, sameProfile⟩ := parameters approval supplied
    refine ⟨template.trans sameTemplate.symm, ?_, sameProfile.trans profile⟩
    rw [expiry, sameDays]

private theorem provisionings_step {action : Action Uuid}
    (stepped : world.step byExpiry byArchival runtime schema action = some next) :
    ∀ provisioning ∈ next.provisionings, provisioning ∈ world.provisionings ∨
      (provisioning.AsApproved ↔ provisioning.Default) := by
  intro provisioning listed
  cases action with
  | submit requestId workEmail firstName lastName companyName =>
    dsimp only [World.step] at stepped
    split_ifs at stepped
    obtain rfl := Option.some.inj stepped
    exact .inl listed
  | approve requestId jobId decidedBy approval now =>
    dsimp only [World.step, World.approve] at stepped
    split at stepped
    · cases stepped
    · split_ifs at stepped
      obtain rfl := Option.some.inj stepped
      exact .inl listed
  | reject requestId decidedBy reason internalNote now =>
    obtain rfl := Option.some.inj stepped
    exact .inl listed
  | serve call =>
    obtain rfl := Option.some.inj stepped
    exact .inl listed
  | provision attempt =>
    obtain rfl := Option.some.inj stepped
    rcases List.mem_append.mp listed with earlier | new
    · exact .inl earlier
    · exact .inr (created_iff perform_leaves (Option.mem_toList.mp new))

def World.Judged (world : World Uuid) : Prop :=
  ∀ provisioning ∈ world.provisionings, provisioning.AsApproved ↔ provisioning.Default

private theorem World.Judged.step (judged : world.Judged) {action : Action Uuid}
    (stepped : world.step byExpiry byArchival runtime schema action = some next) : next.Judged := by
  intro provisioning listed
  rcases provisionings_step stepped provisioning listed with earlier | new
  · exact judged provisioning earlier
  · exact new

/-- In every run, a sandbox is provisioned as it was approved exactly if the defaults were approved
and its request is not rejected. -/
theorem provisioned_as_approved_iff {start reached : World Uuid} {schedule : List (Action Uuid)}
    (begun : start.provisionings = [])
    (ran : run (World.step byExpiry byArchival runtime schema) start schedule = some reached) :
    ∀ provisioning ∈ reached.provisionings, provisioning.AsApproved ↔ provisioning.Default := by
  have judgedStart : start.Judged := by
    intro provisioning listed
    rw [begun] at listed
    cases listed
  have judged : reached.Judged :=
    run_preserves (fun _ _ _ (judged : World.Judged _) (_ : True) stepped => judged.step stepped)
      judgedStart (runMeets_of_forall fun _ _ => trivial) ran
  exact judged

end Law

/-! Requests of which the defaults, another duration, or nothing in the end is approved. -/

private def shortApproval : Approval := { defaultApproval with durationDays := 3 }

theorem default_approval_provisioned :
    ∃ reached provisioning, run (demoStep (withLastError Nat)) noRequests
        (approvedRequest ++ [attemptOf 1 100 (fun _ => none) false]) = some reached ∧
      reached.provisionings = [provisioning] ∧ provisioning.AsApproved := by
  obtain ⟨reached, provisioning, ran, only, decision, approval⟩ :
      ∃ reached provisioning, run (demoStep (withLastError Nat)) noRequests
          (approvedRequest ++ [attemptOf 1 100 (fun _ => none) false]) = some reached ∧
        reached.provisionings = [provisioning] ∧ provisioning.decision = .approved ∧
        provisioning.approval = some defaultApproval := ⟨_, _, rfl, rfl, rfl, rfl⟩
  have judged : provisioning.AsApproved ↔ provisioning.Default :=
    provisioned_as_approved_iff rfl ran provisioning (only ▸ List.mem_cons_self)
  refine ⟨reached, provisioning, ran, only, judged.mpr ⟨?_, fun other supplied => ?_⟩⟩
  · rw [decision]
    exact fun same => nomatch same
  · obtain rfl := Option.some.inj (approval.symm.trans supplied)
    exact ⟨rfl, rfl, rfl⟩

/-- Three days are approved, and seven provisioned; and a request that was rejected after its
approval is provisioned all the same. -/
theorem provisioned_otherwise :
    (∃ reached provisioning, run (demoStep (withLastError Nat)) noRequests
        [.submit 10 "alice@example.com" "Alice" "Smith" "Acme", .approve 10 1 99 shortApproval 0,
          attemptOf 1 100 (fun _ => none) false] = some reached ∧
      reached.provisionings = [provisioning] ∧ provisioning.approval = some shortApproval ∧
      provisioning.row.expiresAt = some (provisioning.now + days 7) ∧
      ¬provisioning.AsApproved) ∧
    ∃ reached provisioning, run (demoStep (withLastError Nat)) noRequests
        (approvedRequest ++ [.reject 10 99 "not a fit" none 0,
          attemptOf 1 100 (fun _ => none) false]) = some reached ∧
      reached.provisionings = [provisioning] ∧ provisioning.decision = .rejected ∧
      ¬provisioning.AsApproved := by
  refine ⟨⟨_, _, rfl, rfl, rfl, rfl, fun asApproved => ?_⟩,
    ⟨_, _, rfl, rfl, rfl, fun asApproved => ?_⟩⟩
  · obtain ⟨-, expiry, -⟩ := asApproved.parameters shortApproval rfl
    exact absurd (Option.some.inj expiry) (by decide)
  · exact asApproved.decision rfl

end CogniDQ.Sandbox
