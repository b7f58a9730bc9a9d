import CogniDQ.Database.Session
import CogniDQ.Python.Dynamic
import Mathlib.Algebra.GroupWithZero.Nat

/-!
# The escalation check

`EscalationService.run_escalation_check`: the overdue issues, the alert rules and channels of their
workspaces, and one session into which the notification events are flushed one by one.
-/

set_option autoImplicit false

namespace CogniDQ.Escalation

open CogniDQ.Database CogniDQ.Python

structure Issue (Uuid : Type) where
  id : Uuid
  workspaceId : Uuid
  title : String
  severity : String
  status : String
  dueAt : Option Int

structure AlertRule (Uuid : Type) where
  id : Uuid
  workspaceId : Uuid
  tenantId : Uuid
  triggerType : String
  enabled : Bool
  channelIds : Value
  recipientUserIds : Value

structure AlertChannel (Uuid : Type) where
  id : Uuid
  workspaceId : Uuid
  enabled : Bool
  configuration : Value

structure NotificationEvent (Uuid : Type) where
  tenantId : Uuid
  workspaceId : Uuid
  alertRuleId : Uuid
  alertChannelId : Uuid
  recipient : Value
  status : String
  /-- `checked_at` and `issues` of the payload; its other entries follow from them. -/
  checkedAt : Int
  issues : List (Issue Uuid)
  retryCount : Nat
  maxRetries : Nat

structure Tables (Uuid : Type) where
  issues : List (Issue Uuid)
  rules : List (AlertRule Uuid)
  channels : List (AlertChannel Uuid)

/-- How identities are written and read, and in which order a set is iterated. -/
structure Platform (Uuid : Type) where
  runtime : Runtime
  uuidText : Uuid → String
  parseUuid : String → Option Uuid
  iterate : List Uuid → List Uuid
  iterate_perm : ∀ ids, (iterate ids).Perm ids

/-- What the database answers to the inserts, in the order they are tried, and to the commit. -/
structure Answers (Uuid : Type) where
  accepts : Nat → NotificationEvent Uuid → Bool
  commit : Except Exn Unit

inductive EscalationError (Uuid : Type) where
  | workspace (workspaceId : Uuid) (raised : Exn)
  | run (raised : Exn)

structure EscalationResult (Uuid : Type) where
  overdueIssuesFound : Nat
  workspacesAffected : Nat
  rulesMatched : Nat
  notificationsLogged : Nat
  errors : List (EscalationError Uuid)

/-- The events flushed and not rolled back, the number of inserts tried, and whether a flush has
failed. Such a session has expired its objects and refuses every statement, the commit too, until its
rollback is called. -/
structure Session (Uuid : Type) where
  pending : List (NotificationEvent Uuid)
  tried : Nat
  failed : Bool

def openStatuses : List String := ["open", "in_progress", "reopened"]

section Queries

variable {Uuid : Type} [DecidableEq Uuid] (tables : Tables Uuid)

def findOverdueIssues (now : Int) : List (Issue Uuid) :=
  tables.issues.filter fun issue =>
    decide (issue.status ∈ openStatuses) && issue.dueAt.any (decide <| · < now)

def findIssueOverdueRules (workspaceId : Uuid) : List (AlertRule Uuid) :=
  tables.rules.filter fun rule =>
    decide (rule.workspaceId = workspaceId) && decide (rule.triggerType = "issue_overdue") &&
      rule.enabled

def findEnabledChannels (workspaceId : Uuid) (channelIds : List Uuid) :
    List (AlertChannel Uuid) :=
  tables.channels.filter fun channel =>
    decide (channel.workspaceId = workspaceId) && decide (channel.id ∈ channelIds) &&
      channel.enabled

end Queries

section Check

variable {Uuid : Type} [DecidableEq Uuid] (platform : Platform Uuid) (tables : Tables Uuid)
  (answers : Answers Uuid) (now : Int)

/-- `[UUID(str(cid)) for cid in rule.channel_ids or []]`, and no channel when that raises. -/
def ruleChannelIds (rule : AlertRule Uuid) : List Uuid :=
  match (rule.channelIds.or (.list [])).elements with
  | .error _ => []
  | .ok raw => (raw.mapM fun id => platform.parseUuid (platform.runtime.str id)).getD []

def extractRecipient (channel : AlertChannel Uuid) : Except Exn Value :=
  match channel.configuration.or (.dict []) with
  | .dict entries =>
    let configuration : Dict := entries
    .ok ((configuration.get "email").or ((configuration.get "url").or
      ((configuration.get "webhook_url").or (.str (platform.uuidText channel.id)))))
  | _ => .error .attributeError

def clipRecipient : Value → Value
  | .str text => .str (String.ofList (text.toList.take 500))
  | other => other

/-- The row `_log_event` builds; without a channel the identity of the rule stands for one. -/
def newEvent (rule : AlertRule Uuid) (workspaceId : Uuid) (channelId : Option Uuid)
    (recipient : Value) (issues : List (Issue Uuid)) : NotificationEvent Uuid where
  tenantId := rule.tenantId
  workspaceId
  alertRuleId := rule.id
  alertChannelId := channelId.getD rule.id
  recipient := clipRecipient recipient
  status := "pending"
  checkedAt := now
  issues
  retryCount := 0
  maxRetries := 3

/-- What comes of an event: it is flushed, it cannot be made (what is no text and no list has no first
500 characters), or its flush fails. -/
inductive Logged where
  | flushed
  | unmade
  | refused
deriving DecidableEq

/-- An insert succeeds only for a recipient that is text and for a rule and a channel that exist. -/
def logged (tried : Nat) (event : NotificationEvent Uuid) : Logged :=
  match event.recipient with
  | .str _ =>
    if decide (event.alertRuleId ∈ tables.rules.map (·.id)) &&
        decide (event.alertChannelId ∈ tables.channels.map (·.id)) && answers.accepts tried event then
      .flushed
    else .refused
  | .list _ => .refused
  | _ => .unmade

/-- After a failed flush the handler reads the identity of the expired rule before it rolls back, so
that its own error leaves it. -/
def logEvent (event : NotificationEvent Uuid) (session : Session Uuid) :
    Except Exn Nat × Session Uuid :=
  let tried := session.tried + 1
  match logged tables answers session.tried event with
  | .flushed => (.ok 1, { session with pending := session.pending ++ [event], tried })
  | .unmade => (.ok 0, { session with pending := [], tried })
  | .refused => (.error .databaseError, { pending := [], tried, failed := true })

def logChannels (rule : AlertRule Uuid) (workspaceId : Uuid) (issues : List (Issue Uuid)) :
    List (AlertChannel Uuid) → Nat → Session Uuid → Except Exn Nat × Session Uuid
  | [], logged, session => (.ok logged, session)
  | channel :: rest, logged, session =>
    match extractRecipient platform channel with
    | .error raised => (.error raised, session)
    | .ok recipient =>
      let event := newEvent now rule workspaceId (some channel.id) recipient issues
      match logEvent tables answers event session with
      | (.error raised, session) => (.error raised, session)
      | (.ok one, session) => logChannels rule workspaceId issues rest (logged + one) session

def logRules (workspaceId : Uuid) (issues : List (Issue Uuid)) :
    List (AlertRule Uuid) → Nat → Session Uuid → Except Exn Nat × Session Uuid
  | [], logged, session => (.ok logged, session)
  | rule :: rest, logged, session =>
    match findEnabledChannels tables workspaceId (ruleChannelIds platform rule) with
    | [] =>
      match (rule.recipientUserIds.or (.list [])).elements with
      | .error raised => (.error raised, session)
      | .ok [] => logRules workspaceId issues rest logged session
      | .ok (recipient :: _) =>
        let event := newEvent now rule workspaceId none
          (.str (platform.runtime.str recipient)) issues
        match logEvent tables answers event session with
        | (.error raised, session) => (.error raised, session)
        | (.ok one, session) => logRules workspaceId issues rest (logged + one) session
    | channels =>
      match logChannels platform tables answers now rule workspaceId issues channels logged
          session with
      | (.error raised, session) => (.error raised, session)
      | (.ok logged, session) => logRules workspaceId issues rest logged session

def processWorkspace (workspaceId : Uuid) (issues : List (Issue Uuid)) (session : Session Uuid) :
    Except Exn Nat × Session Uuid :=
  logRules platform tables answers now workspaceId issues (findIssueOverdueRules tables workspaceId)
    0 session

/-- `for workspace_id in workspace_ids`: a workspace that raises adds nothing to the count. The issues
are told apart outside of the inner `try`, and cannot be read after a failed flush. -/
def processWorkspaces (overdue : List (Issue Uuid)) :
    List Uuid → EscalationResult Uuid → Session Uuid → EscalationResult Uuid × Session Uuid
  | [], result, session => (result, session)
  | workspaceId :: rest, result, session =>
    if session.failed then (result, session)
    else
      let matched := result.rulesMatched + (findIssueOverdueRules tables workspaceId).length
      let issues := overdue.filter fun issue => decide (issue.workspaceId = workspaceId)
      match processWorkspace platform tables answers now workspaceId issues session with
      | (.ok logged, session) =>
        processWorkspaces overdue rest
          { result with
            rulesMatched := matched
            notificationsLogged := result.notificationsLogged + logged } session
      | (.error raised, session) =>
        processWorkspaces overdue rest
          { result with
            rulesMatched := matched
            errors := result.errors ++ [.workspace workspaceId raised] } session

/-- The workspaces of the overdue issues, as the loop takes them. -/
def affectedWorkspaces (overdue : List (Issue Uuid)) : List Uuid :=
  platform.iterate (overdue.map (·.workspaceId)).dedup

/-- The run up to its commit. -/
def escalationLoop : EscalationResult Uuid × Session Uuid :=
  let overdue := findOverdueIssues tables now
  let workspaceIds := affectedWorkspaces platform overdue
  processWorkspaces platform tables answers now overdue workspaceIds
    { overdueIssuesFound := overdue.length
      workspacesAffected := workspaceIds.length
      rulesMatched := 0
      notificationsLogged := 0
      errors := [] } ⟨[], 0, false⟩

def runEscalationCheck : EscalationResult Uuid × List (NotificationEvent Uuid) :=
  let (result, session) := escalationLoop platform tables answers now
  if (findOverdueIssues tables now).isEmpty then (result, [])
  else
    match if session.failed then .error .databaseError else answers.commit with
    | .ok () => (result, session.pending)
    | .error raised => ({ result with errors := result.errors ++ [.run raised] }, [])

end Check

end CogniDQ.Escalation

/-!
## What an escalation check reports and commits

The inserts a run tries follow from the tables and what the database answers. Its report is right
exactly when no event fails after another is in and no workspace raises after one of its events is in.
-/

namespace CogniDQ.Escalation

open CogniDQ.Database CogniDQ.Python

/-- The events a part of the run tries to insert, and what it raises in the end. -/
structure Plan (Uuid : Type) where
  events : List (NotificationEvent Uuid)
  raised : Option Exn

/-- The events of one workspace that are flushed or cannot be made, whether the flush of another then
fails, and what the workspace raises in the end. -/
structure Tries (Uuid : Type) where
  inserts : List (NotificationEvent Uuid × Bool)
  refused : Bool
  raised : Option Exn

namespace Plan

variable {Uuid : Type}

def cons (event : NotificationEvent Uuid) (plan : Plan Uuid) : Plan Uuid :=
  { plan with events := event :: plan.events }

def append (first second : Plan Uuid) : Plan Uuid :=
  match first.raised with
  | some _ => first
  | none => { second with events := first.events ++ second.events }

end Plan

section Plans

variable {Uuid : Type} [DecidableEq Uuid] (platform : Platform Uuid) (tables : Tables Uuid)
  (answers : Answers Uuid) (now : Int)

def channelPlan (rule : AlertRule Uuid) (workspaceId : Uuid) (issues : List (Issue Uuid)) :
    List (AlertChannel Uuid) → Plan Uuid
  | [] => ⟨[], none⟩
  | channel :: rest =>
    match extractRecipient platform channel with
    | .error raised => ⟨[], some raised⟩
    | .ok recipient =>
      (channelPlan rule workspaceId issues rest).cons
        (newEvent now rule workspaceId (some channel.id) recipient issues)

def fallbackPlan (rule : AlertRule Uuid) (workspaceId : Uuid) (issues : List (Issue Uuid)) :
    Plan Uuid :=
  match (rule.recipientUserIds.or (.list [])).elements with
  | .error raised => ⟨[], some raised⟩
  | .ok [] => ⟨[], none⟩
  | .ok (recipient :: _) =>
    ⟨[newEvent now rule workspaceId none (.str (platform.runtime.str recipient)) issues], none⟩

def rulePlan (workspaceId : Uuid) (issues : List (Issue Uuid)) : List (AlertRule Uuid) → Plan Uuid
  | [] => ⟨[], none⟩
  | rule :: rest =>
    let channels := findEnabledChannels tables workspaceId (ruleChannelIds platform rule)
    let plan :=
      if channels.isEmpty then fallbackPlan platform now rule workspaceId issues
      else channelPlan platform now rule workspaceId issues channels
    plan.append (rulePlan workspaceId issues rest)

def workspacePlan (overdue : List (Issue Uuid)) (workspaceId : Uuid) : Plan Uuid :=
  rulePlan platform tables now workspaceId
    (overdue.filter fun issue => decide (issue.workspaceId = workspaceId))
    (findIssueOverdueRules tables workspaceId)

def tryAll (tried : Nat) :
    List (NotificationEvent Uuid) → List (NotificationEvent Uuid × Bool) × Bool
  | [] => ([], false)
  | event :: rest =>
    match logged tables answers tried event with
    | .flushed => ((event, true) :: (tryAll (tried + 1) rest).1, (tryAll (tried + 1) rest).2)
    | .unmade => ((event, false) :: (tryAll (tried + 1) rest).1, (tryAll (tried + 1) rest).2)
    | .refused => ([], true)

def Plan.tries (plan : Plan Uuid) (tried : Nat) : Tries Uuid :=
  let (inserts, refused) := tryAll tables answers tried plan.events
  ⟨inserts, refused, if refused then some .databaseError else plan.raised⟩

/-- A failed flush is the end of it. -/
def triesOf (overdue : List (Issue Uuid)) : Nat → List Uuid → List (Tries Uuid)
  | _, [] => []
  | tried, workspaceId :: rest =>
    let plan := workspacePlan platform tables now overdue workspaceId
    let tries := plan.tries tables answers tried
    if tries.refused then [tries]
    else tries :: triesOf overdue (tried + plan.events.length) rest

def runTries : List (Tries Uuid) :=
  let overdue := findOverdueIssues tables now
  triesOf platform tables answers now overdue 0 (affectedWorkspaces platform overdue)

end Plans

section Loops

variable {Uuid : Type} [DecidableEq Uuid] {platform : Platform Uuid} {tables : Tables Uuid}
  {answers : Answers Uuid} {now : Int}

/-- The events of a plan logged one by one, and its error raised in the end. -/
def execute (tables : Tables Uuid) (answers : Answers Uuid) (raised : Option Exn) :
    List (NotificationEvent Uuid) → Nat → Session Uuid → Except Exn Nat × Session Uuid
  | [], count, session => (raised.elim (.ok count) .error, session)
  | event :: rest, count, session =>
    match logEvent tables answers event session with
    | (.error raised, session) => (.error raised, session)
    | (.ok one, session) => execute tables answers raised rest (count + one) session

private theorem execute_cons (raised : Option Exn) (event : NotificationEvent Uuid)
    (rest : List (NotificationEvent Uuid)) (count : Nat) (session : Session Uuid) :
    execute tables answers raised (event :: rest) count session =
      match logEvent tables answers event session with
      | (.error raised, session) => (.error raised, session)
      | (.ok one, session) => execute tables answers raised rest (count + one) session :=
  rfl

private theorem execute_append (first second : Plan Uuid) (count : Nat) (session : Session Uuid) :
    execute tables answers (first.append second).raised (first.append second).events count session =
      match execute tables answers first.raised first.events count session with
      | (.error raised, session) => (.error raised, session)
      | (.ok count, session) => execute tables answers second.raised second.events count session := by
  obtain ⟨events, raised⟩ := first
  cases raised with
  | some raised =>
      simp only [Plan.append]
      induction events generalizing count session with
      | nil => rfl
      | cons event rest ih =>
          rw [execute_cons]
          rcases logEvent tables answers event session with ⟨error | one, later⟩
          · rfl
          · exact ih (count + one) later
  | none =>
      simp only [Plan.append]
      induction events generalizing count session with
      | nil => rfl
      | cons event rest ih =>
          rw [List.cons_append, execute_cons, execute_cons]
          rcases logEvent tables answers event session with ⟨error | one, later⟩
          · rfl
          · exact ih (count + one) later

theorem logChannels_eq (rule : AlertRule Uuid) (workspaceId : Uuid) (issues : List (Issue Uuid))
    (channels : List (AlertChannel Uuid)) (count : Nat) (session : Session Uuid) :
    let plan := channelPlan platform now rule workspaceId issues channels
    logChannels platform tables answers now rule workspaceId issues channels count session =
      execute tables answers plan.raised plan.events count session := by
  induction channels generalizing count session with
  | nil => rfl
  | cons channel rest ih =>
      unfold logChannels channelPlan
      cases extractRecipient platform channel with
      | error raised => rfl
      | ok recipient =>
          dsimp only [Plan.cons, execute]
          rcases logEvent tables answers _ session with ⟨error | one, later⟩
          · rfl
          · exact ih (count + one) later

private theorem logRules_eq (workspaceId : Uuid) (issues : List (Issue Uuid))
    (rules : List (AlertRule Uuid)) (count : Nat) (session : Session Uuid) :
    let plan := rulePlan platform tables now workspaceId issues rules
    logRules platform tables answers now workspaceId issues rules count session =
      execute tables answers plan.raised plan.events count session := by
  induction rules generalizing count session with
  | nil => rfl
  | cons rule rest ih =>
      unfold logRules rulePlan
      dsimp only at ih ⊢
      rw [execute_append]
      cases findEnabledChannels tables workspaceId (ruleChannelIds platform rule) with
      | nil =>
          rw [List.isEmpty_nil, if_pos rfl]
          unfold fallbackPlan
          cases (rule.recipientUserIds.or (.list [])).elements with
          | error raised => rfl
          | ok recipients =>
              cases recipients with
              | nil => exact ih count session
              | cons recipient others =>
                  dsimp only [execute]
                  rcases logEvent tables answers _ session with ⟨error | one, later⟩
                  · rfl
                  · exact ih (count + one) later
      | cons channel others =>
          rw [List.isEmpty_cons, if_neg Bool.false_ne_true]
          dsimp only
          rw [logChannels_eq]
          rcases execute tables answers _ _ count session with ⟨raised | one, later⟩
          · rfl
          · exact ih one later

/-- What executing a plan from a count and a session comes to. -/
structure Executed (tries : Tries Uuid) (events : List (NotificationEvent Uuid)) (count : Nat)
    (session : Session Uuid) (ended : Except Exn Nat × Session Uuid) : Prop where
  result : ended.1 = tries.raised.elim (.ok (count + (accepted tries.inserts).length)) .error
  failed : ended.2.failed = tries.refused
  pending : ended.2.pending =
    if tries.refused then [] else surviving session.pending tries.inserts
  tried : tries.refused = false → ended.2.tried = session.tried + events.length

private theorem execute_plan (plan : Plan Uuid) (count : Nat) {session : Session Uuid}
    (usable : session.failed = false) :
    Executed (plan.tries tables answers session.tried) plan.events count session
      (execute tables answers plan.raised plan.events count session) := by
  obtain ⟨events, raised⟩ := plan
  induction events generalizing count session with
  | nil => exact ⟨rfl, usable, rfl, fun _ => rfl⟩
  | cons event rest ih =>
      unfold execute logEvent Plan.tries
      dsimp only
      unfold tryAll
      cases outcome : logged tables answers session.tried event with
      | flushed =>
          have later := @ih (count + 1) { session with
            pending := session.pending ++ [event], tried := session.tried + 1 } usable
          refine ⟨later.result.trans ?_, later.failed, later.pending, fun kept => ?_⟩
          · simp [Plan.tries, accepted, Nat.add_assoc, Nat.add_comm 1]
          · exact (later.tried kept).trans (by simp [Nat.add_assoc, Nat.add_comm 1])
      | unmade =>
          have later := @ih (count + 0) { session with
            pending := [], tried := session.tried + 1 } usable
          refine ⟨later.result.trans ?_, later.failed, later.pending, fun kept => ?_⟩
          · simp [Plan.tries, accepted]
          · exact (later.tried kept).trans (by simp [Nat.add_assoc, Nat.add_comm 1])
      | refused => exact ⟨rfl, rfl, rfl, fun kept => Bool.noConfusion kept⟩

private theorem processWorkspace_executed (overdue : List (Issue Uuid)) (workspaceId : Uuid)
    {session : Session Uuid} (usable : session.failed = false) :
    let plan := workspacePlan platform tables now overdue workspaceId
    Executed (plan.tries tables answers session.tried) plan.events 0 session
      (processWorkspace platform tables answers now workspaceId
        (overdue.filter fun issue => decide (issue.workspaceId = workspaceId)) session) := by
  unfold processWorkspace
  rw [logRules_eq]
  exact execute_plan _ 0 usable

private theorem Plan.raised_of_refused {plan : Plan Uuid} {tried : Nat}
    (refused : (plan.tries tables answers tried).refused = true) :
    (plan.tries tables answers tried).raised = some .databaseError :=
  if_pos refused

def Tries.counted (tries : Tries Uuid) : Nat :=
  match tries.raised with
  | some _ => 0
  | none => (accepted tries.inserts).length

def allInserts (tries : List (Tries Uuid)) : List (NotificationEvent Uuid × Bool) :=
  tries.flatMap (·.inserts)

private theorem processWorkspaces_failed {overdue : List (Issue Uuid)} {workspaceIds : List Uuid}
    {result : EscalationResult Uuid} {session : Session Uuid} (failed : session.failed = true) :
    processWorkspaces platform tables answers now overdue workspaceIds result session =
      (result, session) := by
  cases workspaceIds with
  | nil => rfl
  | cons workspaceId rest => exact if_pos failed

variable (platform tables answers now) in
private theorem processWorkspaces_eq (overdue : List (Issue Uuid)) (workspaceIds : List Uuid)
    (result : EscalationResult Uuid) {session : Session Uuid} (usable : session.failed = false) :
    let (report, final) :=
      processWorkspaces platform tables answers now overdue workspaceIds result session
    let tries := triesOf platform tables answers now overdue session.tried workspaceIds
    report.notificationsLogged = result.notificationsLogged + (tries.map Tries.counted).sum ∧
      final.failed = tries.any (·.refused) ∧
        final.pending =
          if tries.any (·.refused) then [] else surviving session.pending (allInserts tries) := by
  induction workspaceIds generalizing result session with
  | nil => exact ⟨rfl, usable, rfl⟩
  | cons workspaceId rest ih =>
      dsimp only at ih ⊢
      have executed := @processWorkspace_executed _ _ platform tables answers now overdue workspaceId
        session usable
      unfold processWorkspaces triesOf
      rw [if_neg (by simp [usable])]
      dsimp only at executed ⊢
      generalize processWorkspace platform tables answers now workspaceId _ session = run at executed ⊢
      obtain ⟨ended, later⟩ := run
      obtain ⟨outcome, failed, pending, tried⟩ := executed
      dsimp only at outcome failed pending tried
      by_cases refused : ((workspacePlan platform tables now overdue workspaceId).tries tables answers
          session.tried).refused = true
      · rw [Plan.raised_of_refused refused] at outcome
        rw [refused] at failed pending
        subst outcome
        rw [if_pos refused]
        simp only [Option.elim]
        rw [processWorkspaces_failed failed]
        simp [Tries.counted, Plan.raised_of_refused refused, failed, pending, refused]
      · have kept := Bool.eq_false_iff.mpr refused
        rw [kept] at failed pending
        rw [if_neg refused]
        cases raised : ((workspacePlan platform tables now overdue workspaceId).tries tables answers
            session.tried).raised with
        | some exn =>
            rw [raised] at outcome
            subst outcome
            simp only [Option.elim]
            obtain ⟨logged, dead, left⟩ := ih _ failed
            rw [tried kept] at logged dead left
            refine ⟨logged.trans ?_, dead.trans ?_, left.trans ?_⟩
            · simp [Tries.counted, raised]
            · simp [kept]
            · simp [kept, pending, allInserts, surviving_append]
        | none =>
            rw [raised] at outcome
            subst outcome
            simp only [Option.elim]
            obtain ⟨logged, dead, left⟩ := ih _ failed
            rw [tried kept] at logged dead left
            refine ⟨logged.trans ?_, dead.trans ?_, left.trans ?_⟩
            · simp [Tries.counted, raised, Nat.add_assoc]
            · simp [kept]
            · simp [kept, pending, allInserts, surviving_append]

variable (platform tables answers now) in
private theorem escalationLoop_eq :
    let tries := runTries platform tables answers now
    (escalationLoop platform tables answers now).1.notificationsLogged = (tries.map Tries.counted).sum ∧
      (escalationLoop platform tables answers now).2.failed = tries.any (·.refused) ∧
        (escalationLoop platform tables answers now).2.pending =
          if tries.any (·.refused) then [] else surviving [] (allInserts tries) := by
  obtain ⟨logged, failed, pending⟩ := processWorkspaces_eq platform tables answers now
    (findOverdueIssues tables now) (affectedWorkspaces platform (findOverdueIssues tables now)) _
    (rfl : (⟨[], 0, false⟩ : Session Uuid).failed = false)
  exact ⟨logged.trans (Nat.zero_add _), failed, pending⟩

variable (platform tables answers now) in
private theorem runEscalationCheck_eq :
    (runEscalationCheck platform tables answers now).1.notificationsLogged =
        (escalationLoop platform tables answers now).1.notificationsLogged ∧
      (runEscalationCheck platform tables answers now).2 =
        match if (escalationLoop platform tables answers now).2.failed then .error .databaseError
          else answers.commit with
        | .ok () => (escalationLoop platform tables answers now).2.pending
        | .error _ => [] := by
  unfold runEscalationCheck
  dsimp only
  split_ifs with nothing failed failed
  · exact ⟨rfl, rfl⟩
  · have nobody : affectedWorkspaces platform (findOverdueIssues tables now) = [] := by
      rw [List.isEmpty_iff.mp nothing]
      exact (platform.iterate_perm _).eq_nil
    have idle : (escalationLoop platform tables answers now).2 = ⟨[], 0, false⟩ := by
      unfold escalationLoop
      dsimp only
      rw [nobody]
      rfl
    refine ⟨rfl, ?_⟩
    rw [idle]
    cases answers.commit <;> rfl
  · exact ⟨rfl, rfl⟩
  · cases answers.commit <;> exact ⟨rfl, rfl⟩

omit [DecidableEq Uuid] in
private theorem counted_eq_iff (tries : List (Tries Uuid)) :
    (tries.map Tries.counted).sum ≤ (accepted (allInserts tries)).length ∧
      ((tries.map Tries.counted).sum = (accepted (allInserts tries)).length ↔
        ∀ entry ∈ tries, entry.raised ≠ none → accepted entry.inserts = []) := by
  induction tries with
  | nil => simp [allInserts, accepted]
  | cons head rest ih =>
      obtain ⟨bound, equal⟩ := ih
      have split_ : (accepted (allInserts (head :: rest))).length =
          (accepted head.inserts).length + (accepted (allInserts rest)).length := by
        simp [allInserts, accepted_append]
      rw [List.map_cons, List.sum_cons, split_, List.forall_mem_cons, ← equal]
      cases raised : head.raised with
      | none =>
          have all : head.counted = (accepted head.inserts).length := by simp [Tries.counted, raised]
          simpa [all] using bound
      | some exn =>
          have nothing : head.counted = 0 := by simp [Tries.counted, raised]
          simp only [nothing, ne_eq, reduceCtorEq, not_false_eq_true, forall_const,
            ← List.length_eq_zero_iff]
          omega

/-- The report counts the committed events, and every event that was flushed is still there when the
run comes to its commit. -/
structure Accounted (platform : Platform Uuid) (tables : Tables Uuid) (answers : Answers Uuid)
    (now : Int) : Prop where
  counted : (runEscalationCheck platform tables answers now).1.notificationsLogged =
    (runEscalationCheck platform tables answers now).2.length
  kept : (escalationLoop platform tables answers now).2.pending =
    accepted (allInserts (runTries platform tables answers now))

/-- A run accounts for what it wrote exactly when no flush fails, or none has succeeded before; and, with
no failed flush, no event cannot be made after another is in, and either the commit succeeds and no
workspace raises after one of its events is in, or it fails and the only events that got in are of
workspaces that raised. -/
theorem accounted_iff (platform : Platform Uuid) (tables : Tables Uuid) (answers : Answers Uuid)
    (now : Int) :
    Accounted platform tables answers now ↔
      let tries := runTries platform tables answers now
      if tries.any (·.refused) then accepted (allInserts tries) = []
      else FailuresFirst (allInserts tries) ∧
        match answers.commit with
        | .ok () => ∀ entry ∈ tries, entry.raised ≠ none → accepted entry.inserts = []
        | .error _ => ∀ entry ∈ tries, entry.raised = none → accepted entry.inserts = [] := by
  obtain ⟨reported, committed⟩ := runEscalationCheck_eq platform tables answers now
  obtain ⟨logged, failed, pending⟩ := escalationLoop_eq platform tables answers now
  obtain ⟨bound, equal⟩ := counted_eq_iff (runTries platform tables answers now)
  have split : Accounted platform tables answers now ↔
      (runEscalationCheck platform tables answers now).1.notificationsLogged =
          (runEscalationCheck platform tables answers now).2.length ∧
        (escalationLoop platform tables answers now).2.pending =
          accepted (allInserts (runTries platform tables answers now)) :=
    ⟨fun accounted => ⟨accounted.counted, accounted.kept⟩, fun both => ⟨both.1, both.2⟩⟩
  rw [split, reported, committed, logged, failed, pending]
  dsimp only
  cases (runTries platform tables answers now).any (·.refused) with
  | true =>
      simp only [if_true, List.length_nil]
      constructor
      · exact fun both => both.2.symm
      · intro none
        rw [none, List.length_nil] at bound
        exact ⟨Nat.le_zero.mp bound, none.symm⟩
  | false =>
      simp only [Bool.false_eq_true, if_false]
      rw [and_comm, surviving_eq_accepted_iff]
      refine and_congr_right fun first => ?_
      cases answers.commit with
      | ok =>
          dsimp only
          rw [surviving_eq_accepted_iff.mpr first, equal]
      | error raised =>
          dsimp only
          rw [List.length_nil, List.sum_eq_zero_iff_forall_eq_nat, List.forall_mem_map]
          refine forall₂_congr fun entry _ => ?_
          unfold Tries.counted
          cases entry.raised with
          | none => simp
          | some raised => simp

end Loops

section Runs

private def numbers : Platform Nat where
  runtime := Runtime.ascii
  uuidText := toString
  parseUuid text := if text = "7" then some 7 else none
  iterate ids := ids
  iterate_perm ids := .refl ids

private def twoWorkspaces : Tables Nat where
  issues := [⟨1, 5, "Null customers", "major", "open", some 10⟩, ⟨2, 6, "Late load", "minor", "open", some 10⟩]
  rules :=
    [⟨20, 5, 9, "issue_overdue", true, .list [.str "7"], .list []⟩,
      ⟨21, 6, 9, "issue_overdue", true, .list [], .list [.str "30"]⟩]
  channels := [⟨7, 5, true, .dict [("email", .str "ops@example.com")]⟩]

private def accepting : Answers Nat where
  accepts _ _ := true
  commit := .ok ()

/-- The event of the rule without channels has the identity of the rule for its channel, which no
channel has; its failed flush takes the event of the other workspace with it, which stays counted. -/
theorem escalation_lost :
    (runEscalationCheck numbers twoWorkspaces accepting 11).1.notificationsLogged = 1 ∧
      (runEscalationCheck numbers twoWorkspaces accepting 11).2 = [] ∧
      ¬Accounted numbers twoWorkspaces accepting 11 := by
  have logged : (runEscalationCheck numbers twoWorkspaces accepting 11).1.notificationsLogged = 1 := by
    decide +kernel
  have committed : (runEscalationCheck numbers twoWorkspaces accepting 11).2.length = 0 := by
    decide +kernel
  refine ⟨logged, List.length_eq_zero_iff.mp committed, fun accounted => ?_⟩
  have same := accounted.counted
  rw [logged, committed] at same
  cases same

end Runs

end CogniDQ.Escalation
