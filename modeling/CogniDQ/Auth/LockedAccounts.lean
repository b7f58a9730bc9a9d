import CogniDQ.Auth.AuthService
import CogniDQ.Protocol.Runs

/-!
# Locked accounts

A disabled or suspended account stays as it is and gets no access token, as long as no verification
token of its is used and no refresh token that names it.
-/

set_option autoImplicit false

namespace CogniDQ.Auth

open CogniDQ.Database CogniDQ.Protocol

def UserStatus.Locked (status : UserStatus) : Prop :=
  status = .disabled ∨ status = .suspended

section

variable {Uuid : Type} [DecidableEq Uuid]

def Accounts.statusOf (accounts : Accounts Uuid) (userId : Uuid) : Option UserStatus :=
  (accounts.users.lookup userId).map (·.status)

/-- A token for the user, as `verify_token` reads it. -/
def Claims.Names (settings : AuthSettings Uuid) (claims : Claims) (userId : Uuid) : Prop :=
  settings.uuid claims.sub = some userId

/-- The condition on a call: it uses neither a verification token nor a refresh token of a user who
is locked out. -/
def AuthServer.Respects (settings : AuthSettings Uuid) (server : AuthServer Uuid) :
    Int × AuthCall Uuid → Prop
  | (now, .verifyEmail token) => ∀ verification,
    (server.accounts.emailVerifications.find? fun row => row.token == token) = some verification →
      ¬verification.expiresAt < now → ∀ status,
        server.accounts.statusOf verification.userId = some status → ¬status.Locked
  | (now, .refreshSession payload) => ∀ data,
    verifyJwt settings payload "refresh" = .ok data →
      (checkSession server.accounts data now).2 = none → ∀ status,
        server.accounts.statusOf data.userId = some status → ¬status.Locked
  | _ => True

/-- What a call leaves of a user who is locked out. -/
structure Kept (settings : AuthSettings Uuid) (userId : Uuid) (status : UserStatus)
    (outcome : Accounts Uuid × Except Failure (Response Uuid)) : Prop where
  status : outcome.1.statusOf userId = some status
  unnamed : ∀ claims, outcome.2.toOption.bind Response.accessToken = some claims →
    ¬claims.Names settings userId

/-- The user is locked out, and no access token has been returned for it. -/
structure AuthServer.Bars (settings : AuthSettings Uuid) (userId : Uuid) (status : UserStatus)
    (server : AuthServer Uuid) : Prop where
  status : server.accounts.statusOf userId = some status
  unnamed : ∀ claims ∈ server.returned, ¬claims.Names settings userId

variable {settings : AuthSettings Uuid} {accounts : Accounts Uuid} {userId other : Uuid}
  {status : UserStatus} {user : User Uuid}

private theorem lookup_of_findByEmail {email : String}
    (found : accounts.findByEmail email = some (other, user)) :
    accounts.users.lookup other = some user := by
  obtain ⟨entry, listed, same⟩ := Option.map_eq_some_iff.mp found
  cases same
  exact AList.mem_lookup_iff.mpr (List.mem_of_find?_eq_some listed)

theorem statusOf_storeUser_of_ne (apart : userId ≠ other) (user : User Uuid) :
    (accounts.storeUser other user).statusOf userId = accounts.statusOf userId := by
  unfold Accounts.statusOf Accounts.storeUser
  rw [AList.lookup_insert_ne apart]

private theorem statusOf_storeUser_self :
    (accounts.storeUser other user).statusOf other = some user.status := by
  unfold Accounts.statusOf Accounts.storeUser
  rw [AList.lookup_insert]
  rfl

theorem kept_of_users (locked : accounts.statusOf userId = some status) {next : Accounts Uuid}
    {answer : Except Failure (Response Uuid)} (users : next.users = accounts.users)
    (noToken : answer.toOption.bind Response.accessToken = none) :
    Kept settings userId status (next, answer) := by
  refine ⟨?_, fun claims token => ?_⟩
  · unfold Accounts.statusOf
    rw [users]
    exact locked
  · rw [noToken] at token
    cases token

private theorem kept_register (locked : accounts.statusOf userId = some status)
    (request : RegisterRequest) (newId : Uuid) (verificationToken : String) (now : Int) :
    Kept settings userId status
      (registerUser settings accounts request newId verificationToken now) := by
  unfold registerUser
  split
  · exact kept_of_users locked rfl rfl
  · rename_i invitation _
    split_ifs with taken exists_
    · exact kept_of_users locked rfl rfl
    · exact kept_of_users locked rfl rfl
    · have apart : userId ≠ newId := by
        rintro rfl
        unfold Accounts.statusOf at locked
        rw [Option.not_isSome_iff_eq_none.mp exists_] at locked
        cases locked
      have stored :=
        (statusOf_storeUser_of_ne apart (newUser settings request invitation)).trans locked
      cases invitation with
      | none => exact kept_of_users stored rfl rfl
      | some invitation => exact kept_of_users stored rfl rfl

private theorem kept_login (readable : ∀ id, settings.uuid (settings.text id) = some id)
    (locked : accounts.statusOf userId = some status) (isLocked : status.Locked)
    (request : LoginRequest) (sessionId : Uuid) (now : Int) :
    Kept settings userId status (login settings accounts request sessionId now) := by
  unfold login
  split
  · exact kept_of_users locked rfl rfl
  · rename_i found user matched
    have present := lookup_of_findByEmail (Option.filter_eq_some_iff.mp matched).1
    dsimp only
    split_ifs with disabled suspended _ taken _
    · exact kept_of_users locked rfl rfl
    · exact kept_of_users locked rfl rfl
    · exact kept_of_users locked rfl rfl
    · exact kept_of_users locked rfl rfl
    -- The session lasts longer or shorter.
    all_goals
      have apart : userId ≠ found := by
        rintro rfl
        unfold Accounts.statusOf at locked
        rw [present] at locked
        cases locked
        exact isLocked.elim disabled suspended
      refine ⟨(statusOf_storeUser_of_ne apart _).trans locked, fun claims token names => ?_⟩
      cases token
      exact apart (Option.some.inj (names.symm.trans (readable found)))

private theorem checkSession_users (data : TokenData Uuid) (now : Int) :
    (checkSession accounts data now).1.users = accounts.users := by
  unfold checkSession
  split
  · rfl
  · split
    · rfl
    · split_ifs <;> rfl

private theorem kept_refresh (readable : ∀ id, settings.uuid (settings.text id) = some id)
    (locked : accounts.statusOf userId = some status) (isLocked : status.Locked)
    {payload : Option Payload} {now : Int}
    (respects : ∀ data, verifyJwt settings payload "refresh" = .ok data →
      (checkSession accounts data now).2 = none → ∀ status,
        accounts.statusOf data.userId = some status → ¬status.Locked) :
    Kept settings userId status (refreshSession settings accounts payload now) := by
  unfold refreshSession
  split
  · exact kept_of_users locked rfl rfl
  · rename_i data verified
    have users : (checkSession accounts data now).1.users = accounts.users :=
      checkSession_users data now
    split
    · rename_i checked failure refused
      rw [refused] at users
      exact kept_of_users locked users rfl
    · rename_i checked passed
      rw [passed] at users
      refine ⟨?_, fun claims token names => ?_⟩
      · unfold Accounts.statusOf at locked ⊢
        rw [users]
        exact locked
      · cases token
        obtain rfl := Option.some.inj ((readable data.userId).symm.trans names)
        exact respects data verified (by rw [passed]) status locked isLocked

private theorem kept_verifyEmail (locked : accounts.statusOf userId = some status)
    (isLocked : status.Locked) {token : String} {now : Int}
    (respects : ∀ verification,
      (accounts.emailVerifications.find? fun row => row.token == token) = some verification →
        ¬verification.expiresAt < now → ∀ status,
          accounts.statusOf verification.userId = some status → ¬status.Locked) :
    Kept settings userId status (verifyEmail accounts token now) := by
  unfold verifyEmail
  split
  · exact kept_of_users locked rfl rfl
  · rename_i verification found
    split_ifs with expired
    · exact kept_of_users locked rfl rfl
    · have apart : userId ≠ verification.userId := by
        intro same
        rw [same] at locked
        exact respects verification found expired status locked isLocked
      split
      · exact kept_of_users locked rfl rfl
      · have stored := fun user => (statusOf_storeUser_of_ne apart user).trans locked
        exact kept_of_users (stored _) rfl rfl

private theorem kept_requestPasswordReset (locked : accounts.statusOf userId = some status)
    (email token : String) (now : Int) :
    Kept settings userId status (requestPasswordReset accounts email token now) := by
  unfold requestPasswordReset
  split
  · exact kept_of_users locked rfl rfl
  · exact kept_of_users locked rfl rfl

private theorem kept_resetPassword (locked : accounts.statusOf userId = some status)
    (isLocked : status.Locked) (token newPassword : String) (now : Int) :
    Kept settings userId status (resetPassword settings accounts token newPassword now) := by
  unfold resetPassword
  split
  · exact kept_of_users locked rfl rfl
  · rename_i reset found
    split_ifs with expired
    · exact kept_of_users locked rfl rfl
    · split
      · exact kept_of_users locked rfl rfl
      · rename_i user present
        have stored : (applyReset settings accounts reset user newPassword).statusOf userId =
            some status := by
          by_cases same : userId = reset.userId
          · subst same
            unfold Accounts.statusOf at locked
            rw [present] at locked
            cases locked
            have notPending : user.status ≠ .pending := by
              intro pending
              rcases isLocked with disabled | suspended
              · cases pending.symm.trans disabled
              · cases pending.symm.trans suspended
            refine statusOf_storeUser_self.trans ?_
            rw [if_neg notPending]
          · exact (statusOf_storeUser_of_ne same _).trans locked
        exact kept_of_users stored rfl rfl

private theorem kept_perform (readable : ∀ id, settings.uuid (settings.text id) = some id)
    {server : AuthServer Uuid} (locked : server.accounts.statusOf userId = some status)
    (isLocked : status.Locked) {now : Int} {call : AuthCall Uuid}
    (respects : server.Respects settings (now, call)) :
    Kept settings userId status (call.perform settings server.accounts now) := by
  cases call with
  | register request newId verificationToken =>
      exact kept_register locked request newId verificationToken now
  | login request sessionId => exact kept_login readable locked isLocked request sessionId now
  | refreshSession payload => exact kept_refresh readable locked isLocked respects
  | verifyEmail token => exact kept_verifyEmail locked isLocked respects
  | requestPasswordReset email token => exact kept_requestPasswordReset locked email token now
  | resetPassword token newPassword =>
      exact kept_resetPassword locked isLocked token newPassword now
  | logout sessionId => exact kept_of_users locked rfl rfl

/-- In every run whose calls use neither a verification token nor a refresh token of a user who is
locked out, a locked account keeps its status and no call returns an access token for it. -/
theorem locked_account_stays_locked (readable : ∀ id, settings.uuid (settings.text id) = some id)
    {start : Accounts Uuid} {calls : List (Int × AuthCall Uuid)} {final : AuthServer Uuid}
    (locked : start.statusOf userId = some status) (isLocked : status.Locked)
    (respected : RunMeets (AuthServer.step settings) (AuthServer.Respects settings) ⟨start, []⟩ calls)
    (ran : run (AuthServer.step settings) ⟨start, []⟩ calls = some final) :
    final.accounts.statusOf userId = some status ∧
      ∀ claims ∈ final.returned, ¬claims.Names settings userId := by
  have preserved : ∀ (server : AuthServer Uuid) (input : Int × AuthCall Uuid)
      (next : AuthServer Uuid), server.Bars settings userId status →
        server.Respects settings input → server.step settings input = some next →
          next.Bars settings userId status := by
    rintro server ⟨now, call⟩ next ⟨lockedStill, unnamed⟩ respects stepped
    cases stepped
    obtain ⟨kept, withheld⟩ := kept_perform readable lockedStill isLocked respects
    refine ⟨kept, fun claims returned => ?_⟩
    rcases List.mem_append.mp returned with before | new
    · exact unnamed claims before
    · exact withheld claims (Option.mem_toList.mp new)
  have begun : AuthServer.Bars settings userId status ⟨start, []⟩ :=
    ⟨locked, fun _ returned => nomatch returned⟩
  have bars := run_preserves preserved begun respected ran
  exact ⟨bars.status, bars.unnamed⟩

end

section Scenarios

private def namedSettings : AuthSettings String where
  unicode := .ascii
  text := id
  uuid := some
  hashPassword := id
  checkPassword password hash := password == hash
  allowPublicRegistration := false
  accessTokenExpireMinutes := 15
  refreshTokenExpireDays := 7

private def disabledUser : User String where
  email := "ada@example.com"
  fullName := none
  passwordHash := some "correct horse"
  emailVerified := false
  status := .disabled
  platformRole := none
  tenantId := none
  lastLoginAt := none

private def lockedOut : Accounts String where
  users := AList.insert "ada" disabledUser ∅
  sessions := AList.insert "session" { userId := "ada", expiresAt := 100 } ∅
  emailVerifications := [{ userId := "ada", token := "verify-me", expiresAt := 100 }]
  passwordResets := []
  invitations := []
  mfaSettings := []
  roleAssignments := []

private def refreshToken : Payload where
  type := some "refresh"
  sub := some "ada"
  email := some "ada@example.com"
  sessionId := some "session"

/-- The verification token activates the account, and the refresh token brings an access token. -/
theorem locked_account_let_in :
    lockedOut.statusOf "ada" = some .disabled ∧
      (∃ final, run (AuthServer.step namedSettings) ⟨lockedOut, []⟩ [(1, .verifyEmail "verify-me")] =
        some final ∧ final.accounts.statusOf "ada" = some .active) ∧
      ∃ final, run (AuthServer.step namedSettings) ⟨lockedOut, []⟩
        [(1, .refreshSession (some refreshToken))] = some final ∧
        ∃ claims ∈ final.returned, claims.Names namedSettings "ada" :=
  ⟨rfl, ⟨_, rfl, rfl⟩, _, rfl, _, List.mem_cons_self, rfl⟩

private def attempts : List (Int × AuthCall String) :=
  [(1, .login { email := "ada@example.com", password := "correct horse", rememberMe := true } "new"),
    (2, .requestPasswordReset "ada@example.com" "reset-me"),
    (3, .resetPassword "reset-me" "battery staple"),
    (4, .login { email := "ada@example.com", password := "battery staple", rememberMe := true }
      "newer")]

theorem reset_does_not_unlock :
    ∃ final, run (AuthServer.step namedSettings) ⟨lockedOut, []⟩ attempts = some final ∧
      final.accounts.statusOf "ada" = some .disabled ∧
      ∀ claims ∈ final.returned, ¬claims.Names namedSettings "ada" := by
  have ran : ∃ final, run (AuthServer.step namedSettings) ⟨lockedOut, []⟩ attempts = some final :=
    ⟨_, rfl⟩
  obtain ⟨final, ran⟩ := ran
  refine ⟨final, ran, locked_account_stays_locked (fun _ => rfl) rfl (.inl rfl) ?_ ran⟩
  refine runMeets_of_mem fun server input listed => ?_
  simp only [attempts, List.mem_cons, List.not_mem_nil, or_false] at listed
  rcases listed with rfl | rfl | rfl | rfl <;> trivial

end Scenarios

end CogniDQ.Auth
