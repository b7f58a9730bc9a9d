import CogniDQ.Auth.LockedAccounts

/-!
# Ended sessions

A session that has been logged out, revoked or ended by a new password gets no access token any
more.
-/

set_option autoImplicit false

namespace CogniDQ.Auth

open CogniDQ.Database CogniDQ.Protocol

section

variable {Uuid : Type} [DecidableEq Uuid]

/-- `revoke_session`, which finds the sessions of its user only. -/
def revokeSession (accounts : Accounts Uuid) (sessionId userId : Uuid) :
    Accounts Uuid × Except Failure (Response Uuid) :=
  match (accounts.sessions.lookup sessionId).filter fun session => session.userId == userId with
  | none => (accounts, .error (.httpException 404 "Session not found"))
  | some _ =>
    ({ accounts with sessions := accounts.sessions.erase sessionId },
      .ok (.message "Session revoked successfully"))

inductive SessionCall (Uuid : Type) where
  | call (call : AuthCall Uuid)
  | revokeSession (sessionId userId : Uuid)

def AuthServer.answer (settings : AuthSettings Uuid) (server : AuthServer Uuid) :
    Int × SessionCall Uuid → Option (AuthServer Uuid)
  | (now, .call call) => server.step settings (now, call)
  | (_, .revokeSession sessionId userId) =>
    some { server with accounts := (revokeSession server.accounts sessionId userId).1 }

/-- The three ways in which a session ends before it expires. -/
inductive Ends (settings : AuthSettings Uuid) (before : Accounts Uuid) (sessionId : Uuid) :
    Accounts Uuid → Prop where
  | logout : Ends settings before sessionId (Auth.logout before sessionId).1
  | revoked {session : UserSession Uuid} (stored : before.sessions.lookup sessionId = some session) :
      Ends settings before sessionId (revokeSession before sessionId session.userId).1
  | reset {token newPassword : String} {now : Int} {reset : PasswordReset Uuid}
      (found : (before.passwordResets.find? fun row => row.token == token && !row.used) = some reset)
      (current : ¬reset.expiresAt < now) (known : (before.users.lookup reset.userId).isSome)
      (own : ∀ session, before.sessions.lookup sessionId = some session →
        session.userId = reset.userId) :
      Ends settings before sessionId (resetPassword settings before token newPassword now).1

/-- A later login draws another identifier for its session. -/
def DrawsOther (sessionId : Uuid) : AuthServer Uuid → Int × SessionCall Uuid → Prop
  | _, (_, .call (.login _ drawn)) => drawn ≠ sessionId
  | _, _ => True

/-- The session is not stored, and no access token for it is returned. -/
structure Gone (settings : AuthSettings Uuid) (sessionId : Uuid)
    (outcome : Accounts Uuid × Except Failure (Response Uuid)) : Prop where
  gone : outcome.1.sessions.lookup sessionId = none
  unnamed : ∀ claims, outcome.2.toOption.bind Response.accessToken = some claims →
    claims.sessionId ≠ some (settings.text sessionId)

variable {settings : AuthSettings Uuid} {accounts : Accounts Uuid} {sessionId : Uuid}

theorem lookup_filter_eq_none {keep : (Σ _ : Uuid, UserSession Uuid) → Bool}
    (dropped : ∀ session, accounts.sessions.lookup sessionId = some session →
      keep ⟨sessionId, session⟩ = false) :
    ((accounts.sessions.entries.filter keep).toAList).lookup sessionId = none := by
  rw [AList.lookup_to_alist, List.dlookup_eq_none]
  intro listed
  obtain ⟨session, member⟩ := List.exists_of_mem_keys listed
  obtain ⟨stored, kept⟩ := List.mem_filter.mp member
  rw [dropped session (AList.mem_lookup_iff.mpr stored)] at kept
  cases kept

private theorem revokeSession_own {session : UserSession Uuid}
    (stored : accounts.sessions.lookup sessionId = some session) :
    (revokeSession accounts sessionId session.userId).1.sessions =
      accounts.sessions.erase sessionId := by
  have own : ((accounts.sessions.lookup sessionId).filter
      fun other => other.userId == session.userId) = some session := by
    rw [stored]
    exact if_pos (beq_self_eq_true _)
  unfold revokeSession
  rw [own]

theorem gone_of_ends {after : Accounts Uuid} (ends : Ends settings accounts sessionId after) :
    after.sessions.lookup sessionId = none := by
  cases ends with
  | logout => exact AList.lookup_erase ..
  | revoked stored =>
      rw [revokeSession_own stored]
      exact AList.lookup_erase ..
  | @reset token newPassword now reset found current known own =>
      obtain ⟨user, stored⟩ := Option.isSome_iff_exists.mp known
      unfold resetPassword
      rw [found]
      dsimp only
      rw [if_neg current, stored]
      exact lookup_filter_eq_none fun session listed => by simp [own session listed]

theorem gone_of_sessions (gone : accounts.sessions.lookup sessionId = none) {next : Accounts Uuid}
    {answer : Except Failure (Response Uuid)} (sessions : next.sessions = accounts.sessions)
    (noToken : answer.toOption.bind Response.accessToken = none) :
    Gone settings sessionId (next, answer) := by
  refine ⟨sessions ▸ gone, fun claims token => ?_⟩
  rw [noToken] at token
  cases token

theorem lookup_erase_eq_none (gone : accounts.sessions.lookup sessionId = none) (other : Uuid) :
    (accounts.sessions.erase other).lookup sessionId = none := by
  by_cases same : sessionId = other
  · rw [same, AList.lookup_erase]
  · rw [AList.lookup_erase_ne same, gone]

private theorem gone_refresh (readable : ∀ id, settings.uuid (settings.text id) = some id)
    (gone : accounts.sessions.lookup sessionId = none) (payload : Option Payload) (now : Int) :
    Gone settings sessionId (refreshSession settings accounts payload now) := by
  unfold refreshSession
  split
  · exact gone_of_sessions gone rfl rfl
  · next data verified =>
    unfold checkSession
    cases named : data.sessionId with
    | none =>
        refine ⟨gone, fun claims token => ?_⟩
        cases token
        simp [tokenClaims]
    | some other =>
        dsimp only
        cases stored : accounts.sessions.lookup other with
        | none => exact gone_of_sessions gone rfl rfl
        | some session =>
            dsimp only
            by_cases expired : session.expiresAt < now
            · rw [if_pos expired]
              refine ⟨lookup_erase_eq_none gone other, fun claims token => ?_⟩
              cases token
            · rw [if_neg expired]
              refine ⟨gone, fun claims token same => ?_⟩
              cases token
              have written := congrArg settings.uuid (Option.some.inj same)
              rw [readable, readable] at written
              rw [Option.some.inj written, gone] at stored
              cases stored

private theorem gone_login (readable : ∀ id, settings.uuid (settings.text id) = some id)
    (gone : accounts.sessions.lookup sessionId = none) (request : LoginRequest) {drawn : Uuid}
    (other : drawn ≠ sessionId) (now : Int) :
    Gone settings sessionId (login settings accounts request drawn now) := by
  unfold login
  split
  · exact gone_of_sessions gone rfl rfl
  · dsimp only
    split_ifs
    · exact gone_of_sessions gone rfl rfl
    · exact gone_of_sessions gone rfl rfl
    · exact gone_of_sessions gone rfl rfl
    · exact gone_of_sessions gone rfl rfl
    -- The session lasts longer or shorter.
    all_goals
      refine ⟨(AList.lookup_insert_ne other.symm).trans gone, fun claims token same => ?_⟩
      cases token
      have written := congrArg settings.uuid (Option.some.inj same)
      rw [readable, readable] at written
      exact other (Option.some.inj written)

private theorem gone_perform (readable : ∀ id, settings.uuid (settings.text id) = some id)
    {server : AuthServer Uuid} (gone : server.accounts.sessions.lookup sessionId = none) {now : Int}
    {call : AuthCall Uuid} (fresh : DrawsOther sessionId server (now, .call call)) :
    Gone settings sessionId (call.perform settings server.accounts now) := by
  cases call with
  | register request userId verificationToken =>
      dsimp only [AuthCall.perform, registerUser]
      split
      · exact gone_of_sessions gone rfl rfl
      · next invitation _ =>
        split_ifs
        · exact gone_of_sessions gone rfl rfl
        · exact gone_of_sessions gone rfl rfl
        · cases invitation <;> exact gone_of_sessions gone rfl rfl
  | login request drawn => exact gone_login readable gone request fresh now
  | refreshSession payload => exact gone_refresh readable gone payload now
  | verifyEmail token =>
      dsimp only [AuthCall.perform, verifyEmail]
      split
      · exact gone_of_sessions gone rfl rfl
      · split_ifs
        · exact gone_of_sessions gone rfl rfl
        · split <;> exact gone_of_sessions gone rfl rfl
  | requestPasswordReset email token =>
      dsimp only [AuthCall.perform, requestPasswordReset]
      split <;> exact gone_of_sessions gone rfl rfl
  | resetPassword token newPassword =>
      dsimp only [AuthCall.perform, resetPassword]
      split
      · exact gone_of_sessions gone rfl rfl
      · split_ifs
        · exact gone_of_sessions gone rfl rfl
        · split
          · exact gone_of_sessions gone rfl rfl
          · refine ⟨lookup_filter_eq_none fun session stored => ?_, fun claims token => ?_⟩
            · cases gone.symm.trans stored
            · cases token
  | logout other =>
      refine ⟨lookup_erase_eq_none gone other, fun claims token => ?_⟩
      cases token

theorem gone_revokeSession (gone : accounts.sessions.lookup sessionId = none) (other userId : Uuid) :
    (revokeSession accounts other userId).1.sessions.lookup sessionId = none := by
  unfold revokeSession
  split
  · exact gone
  · exact lookup_erase_eq_none gone other

/-- The session is not stored, and no token that has been returned is for it. -/
def Refused (settings : AuthSettings Uuid) (sessionId : Uuid) (server : AuthServer Uuid) : Prop :=
  server.accounts.sessions.lookup sessionId = none ∧
    ∀ claims ∈ server.returned, claims.sessionId ≠ some (settings.text sessionId)

private theorem Refused.answer (readable : ∀ id, settings.uuid (settings.text id) = some id)
    {server next : AuthServer Uuid} {input : Int × SessionCall Uuid}
    (refused : Refused settings sessionId server) (fresh : DrawsOther sessionId server input)
    (answered : server.answer settings input = some next) : Refused settings sessionId next := by
  obtain ⟨gone, unnamed⟩ := refused
  obtain ⟨now, call | ⟨other, userId⟩⟩ := input
  · cases answered
    obtain ⟨still, withheld⟩ := gone_perform readable gone fresh
    refine ⟨still, fun claims returned => ?_⟩
    rcases List.mem_append.mp returned with before | new
    · exact unnamed claims before
    · exact withheld claims (Option.mem_toList.mp new)
  · cases answered
    exact ⟨gone_revokeSession gone other userId, unnamed⟩

/-- Once a session has been logged out, revoked or ended by a new password, no call of a run brings
an access token for it. -/
theorem ended_session_refused (readable : ∀ id, settings.uuid (settings.text id) = some id)
    {start after : Accounts Uuid} (ends : Ends settings start sessionId after)
    {calls : List (Int × SessionCall Uuid)} {final : AuthServer Uuid}
    (drawn : RunMeets (AuthServer.answer settings) (DrawsOther sessionId) ⟨after, []⟩ calls)
    (ran : run (AuthServer.answer settings) ⟨after, []⟩ calls = some final) :
    ∀ claims ∈ final.returned, claims.sessionId ≠ some (settings.text sessionId) := by
  have begun : Refused settings sessionId ⟨after, []⟩ :=
    ⟨gone_of_ends ends, fun _ returned => absurd returned List.not_mem_nil⟩
  have refused : Refused settings sessionId final :=
    run_preserves (fun _ _ _ refused fresh answered => refused.answer readable fresh answered) begun
      drawn ran
  exact refused.2

end

section Scenario

private def clearSettings : AuthSettings String where
  unicode := .ascii
  text := id
  uuid := some
  hashPassword := id
  checkPassword password hash := password == hash
  allowPublicRegistration := false
  accessTokenExpireMinutes := 15
  refreshTokenExpireDays := 7

private def signedIn : Accounts String where
  users := AList.insert "ada"
    { email := "ada@example.com"
      fullName := none
      passwordHash := some "correct horse"
      emailVerified := true
      status := .active
      platformRole := none
      tenantId := none
      lastLoginAt := none } ∅
  sessions := AList.insert "session" { userId := "ada", expiresAt := 100 } ∅
  emailVerifications := []
  passwordResets := []
  invitations := []
  mfaSettings := []
  roleAssignments := []

private def laterCalls : List (Int × SessionCall String) :=
  [(1, .call (.refreshSession (some
      { type := some "refresh"
        sub := some "ada"
        email := some "ada@example.com"
        sessionId := some "session" }))),
    (2, .call (.login
      { email := "ada@example.com", password := "correct horse", rememberMe := true } "new")),
    (3, .revokeSession "session" "ada")]

/-- The refresh token of a session that was logged out brings nothing; a new login does. -/
theorem logged_out_session_refused :
    ∃ final, run (AuthServer.answer clearSettings) ⟨(logout signedIn "session").1, []⟩ laterCalls =
        some final ∧ final.returned.length = 1 ∧
      ∀ claims ∈ final.returned, claims.sessionId ≠ some "session" := by
  have ran : ∃ final, run (AuthServer.answer clearSettings) ⟨(logout signedIn "session").1, []⟩
      laterCalls = some final ∧ final.returned.length = 1 := ⟨_, rfl, rfl⟩
  obtain ⟨final, ran, one⟩ := ran
  refine ⟨final, ran, one, ended_session_refused (fun _ => rfl) .logout ?_ ran⟩
  refine runMeets_of_mem fun server input listed => ?_
  simp only [laterCalls, List.mem_cons, List.not_mem_nil, or_false] at listed
  rcases listed with rfl | rfl | rfl
  · trivial
  · exact fun same => absurd same (by decide)
  · trivial

end Scenario

end CogniDQ.Auth
