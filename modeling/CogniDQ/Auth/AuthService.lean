import CogniDQ.Database.ReadCommitted
import CogniDQ.Python.Text

/-!
# Accounts and sessions

The operations of `AuthService` on the rows of users, sessions and one-time tokens. A JSON web token
is the claims it is signed over; what `jwt.decode` makes of a string is an input.
-/

set_option autoImplicit false

namespace CogniDQ.Auth

open CogniDQ.Database CogniDQ.Python

inductive UserStatus where
  | pending
  | active
  | disabled
  | suspended
deriving DecidableEq

structure User (Uuid : Type) where
  email : String
  fullName : Option String
  passwordHash : Option String
  emailVerified : Bool
  status : UserStatus
  platformRole : Option String
  tenantId : Option Uuid
  lastLoginAt : Option Int

structure UserSession (Uuid : Type) where
  userId : Uuid
  expiresAt : Int

structure EmailVerification (Uuid : Type) where
  userId : Uuid
  token : String
  expiresAt : Int
deriving DecidableEq

structure PasswordReset (Uuid : Type) where
  userId : Uuid
  token : String
  expiresAt : Int
  used : Bool
deriving DecidableEq

structure Invitation (Uuid : Type) where
  id : Uuid
  token : String
  workspaceId : Option Uuid
  tenantId : Option Uuid
  email : String
  role : Option String
  expiresAt : Option Int
  status : Option String
  accepted : Bool

structure MfaSettings (Uuid : Type) where
  userId : Uuid
  enabled : Bool

structure RoleAssignment (Uuid : Type) where
  workspaceId : Uuid
  userId : Uuid
  roleName : String

structure Accounts (Uuid : Type) where
  users : Rows Uuid (User Uuid)
  sessions : Rows Uuid (UserSession Uuid)
  emailVerifications : List (EmailVerification Uuid)
  passwordResets : List (PasswordReset Uuid)
  invitations : List (Invitation Uuid)
  mfaSettings : List (MfaSettings Uuid)
  roleAssignments : List (RoleAssignment Uuid)

/-- The payload of a token, before the times that are added to it. -/
structure Claims where
  type : String
  sub : String
  actorId : String
  email : String
  sessionId : Option String
  actorRole : String
  tenantId : Option String

/-- What `jwt.decode` returns of a string, as far as it is read. -/
structure Payload where
  type : Option String
  sub : Option String
  email : Option String
  sessionId : Option String

structure TokenData (Uuid : Type) where
  userId : Uuid
  email : String
  sessionId : Option Uuid

inductive Failure where
  | httpException (statusCode : Nat) (detail : String)
  /-- Any other exception. -/
  | raised

inductive Response (Uuid : Type) where
  | registered (id : Uuid) (email : String) (fullName : Option String) (message : String)
  /-- Without tokens when a second factor is required. -/
  | loggedIn (tokens : Option (Claims × Claims)) (expiresIn : Nat) (requiresMfa : Bool)
  | refreshed (accessToken : Claims)
  | message (text : String)

def Response.accessToken {Uuid : Type} : Response Uuid → Option Claims
  | .loggedIn tokens _ _ => tokens.map Prod.fst
  | .refreshed accessToken => some accessToken
  | _ => none

structure AuthSettings (Uuid : Type) where
  unicode : Unicode
  /-- `str` of an identifier. -/
  text : Uuid → String
  /-- `UUID` of a text; none when it raises. -/
  uuid : String → Option Uuid
  /-- The hash of a new password, with its salt. -/
  hashPassword : String → String
  checkPassword : String → String → Bool
  allowPublicRegistration : Bool
  accessTokenExpireMinutes : Nat
  refreshTokenExpireDays : Nat

def hour : Int := 3600000000

section Service

variable {Uuid : Type} [DecidableEq Uuid] (settings : AuthSettings Uuid) (accounts : Accounts Uuid)

namespace Accounts

def findByEmail (email : String) : Option (Uuid × User Uuid) :=
  (accounts.users.entries.find? fun entry => entry.2.email == email).map fun entry =>
    (entry.1, entry.2)

def storeUser (userId : Uuid) (user : User Uuid) : Accounts Uuid :=
  { accounts with users := accounts.users.insert userId user }

end Accounts

def workspaceRolePrecedence : List String :=
  ["workspace_administrator", "data_engineer", "data_steward", "workspace_steward",
    "business_analyst", "governance_viewer", "workspace_viewer"]

def resolveActorRole (user : Option (Uuid × User Uuid)) : String :=
  match user with
  | none => "member"
  | some (userId, user) =>
    match user.platformRole.filter fun role => !role.isEmpty with
    | some role => role
    | none =>
      let roles := (accounts.roleAssignments.filter fun row => row.userId == userId).map (·.roleName)
      (workspaceRolePrecedence.find? fun candidate => roles.contains candidate).getD "member"

structure RegisterRequest where
  email : String
  password : String
  fullName : Option String
  invitationToken : Option String

def checkInvitation (request : RegisterRequest) (now : Int) :
    Except Failure (Option (Invitation Uuid)) :=
  match request.invitationToken.filter fun token => !token.isEmpty with
  | none =>
    if settings.allowPublicRegistration then .ok none
    else .error (.httpException 403 "Public registration is disabled. An invitation is required.")
  | some token =>
    match accounts.invitations.find? fun row => row.token == token with
    | none => .error (.httpException 400 "Invitation token is invalid.")
    | some invitation =>
      let status := invitation.status.getD "pending"
      let lower := fun text : String => settings.unicode.lower text.toList
      if invitation.accepted ∨ status ≠ "" ∧ status ≠ "pending" then
        .error (.httpException 400 "Invitation token has already been used.")
      else if invitation.expiresAt.any fun expiry => expiry < now then
        .error (.httpException 400 "Invitation token has expired.")
      else if lower invitation.email ≠ lower request.email then
        .error (.httpException 400 "Invitation was issued to a different email address.")
      else .ok (some invitation)

/-- The row of a new user: an invitation to a tenant has verified the email. -/
def newUser (request : RegisterRequest) (invitation : Option (Invitation Uuid)) : User Uuid :=
  let tenantId := invitation.bind (·.tenantId)
  { email := request.email
    fullName := request.fullName
    passwordHash := some (settings.hashPassword request.password)
    emailVerified := tenantId.isSome
    status := if tenantId.isSome then .active else .pending
    platformRole := none
    tenantId
    lastLoginAt := none }

/-- The role that an invitation brings, unless the user has one in the workspace. -/
def attachRole (invitation : Invitation Uuid) (userId : Uuid) :
    List (RoleAssignment Uuid) :=
  match invitation.workspaceId, invitation.role.filter fun role => !role.isEmpty with
  | some workspaceId, some roleName =>
    if accounts.roleAssignments.any fun row => row.workspaceId == workspaceId && row.userId == userId
    then accounts.roleAssignments
    else accounts.roleAssignments ++ [{ workspaceId, userId, roleName }]
  | _, _ => accounts.roleAssignments

def consumeInvitation (invitation : Option (Invitation Uuid)) (userId : Uuid) : Accounts Uuid :=
  match invitation with
  | none => accounts
  | some invitation =>
    { accounts with
      invitations := accounts.invitations.map fun row =>
        if row.id = invitation.id then { row with accepted := true, status := some "accepted" }
        else row
      roleAssignments := attachRole accounts invitation userId }

/-- `register_user`, with the identifier and the verification token it generates. -/
def registerUser (request : RegisterRequest) (userId : Uuid) (verificationToken : String)
    (now : Int) : Accounts Uuid × Except Failure (Response Uuid) :=
  match checkInvitation settings accounts request now with
  | .error failure => (accounts, .error failure)
  | .ok invitation =>
    if (accounts.findByEmail request.email).isSome then
      (accounts, .error (.httpException 400 "Email already registered"))
    else if (accounts.users.lookup userId).isSome then (accounts, .error .raised)
    else
      let inserted := accounts.storeUser userId (newUser settings request invitation)
      let registered := consumeInvitation inserted invitation userId
      match invitation with
      | some _ =>
        (registered, .ok (.registered userId request.email request.fullName
          "Registration successful."))
      | none =>
        ({ registered with
          emailVerifications := registered.emailVerifications ++
            [{ userId, token := verificationToken, expiresAt := now + 24 * hour }] },
          .ok (.registered userId request.email request.fullName
            "Registration successful. Please check your email to verify your account."))

def User.verifyPassword (user : User Uuid) (password : String) : Bool :=
  match user.passwordHash.filter fun hash => !hash.isEmpty with
  | none => false
  | some hash => settings.checkPassword password hash

def tokenClaims (type email : String) (userId : Uuid) (sessionId : Option Uuid)
    (user : Option (Uuid × User Uuid)) : Claims :=
  { type
    sub := settings.text userId
    actorId := settings.text userId
    email
    sessionId := sessionId.map settings.text
    actorRole := resolveActorRole accounts user
    tenantId := (user.bind fun user => user.2.tenantId).map settings.text }

structure LoginRequest where
  email : String
  password : String
  rememberMe : Bool

/-- `login`, with the identifier of the session it creates. -/
def login (request : LoginRequest) (sessionId : Uuid) (now : Int) :
    Accounts Uuid × Except Failure (Response Uuid) :=
  match (accounts.findByEmail request.email).filter fun user =>
      user.2.verifyPassword settings request.password with
  | none => (accounts, .error (.httpException 401 "Invalid email or password"))
  | some (userId, user) =>
    if user.status = .disabled then
      (accounts, .error (.httpException 403 "Account is disabled"))
    else if user.status = .suspended then
      (accounts, .error (.httpException 403 "Account is suspended"))
    else if (accounts.mfaSettings.find? fun row => row.userId == userId).any (·.enabled) then
      (accounts, .ok (.loggedIn none 0 true))
    else if (accounts.sessions.lookup sessionId).isSome then (accounts, .error .raised)
    else
      let days : Nat := if request.rememberMe then 30 else settings.refreshTokenExpireDays
      let updated : User Uuid := { user with lastLoginAt := some now, status := .active }
      let stored :=
        { accounts.storeUser userId updated with
          sessions := accounts.sessions.insert sessionId
            { userId, expiresAt := now + days * (24 * hour) } }
      let claims := fun type =>
        tokenClaims settings stored type user.email userId (some sessionId) (some (userId, updated))
      (stored, .ok (.loggedIn (some (claims "access", claims "refresh"))
        (settings.accessTokenExpireMinutes * 60) false))

def logout (sessionId : Uuid) : Accounts Uuid × Except Failure (Response Uuid) :=
  ({ accounts with sessions := accounts.sessions.erase sessionId },
    .ok (.message "Logged out successfully"))

omit [DecidableEq Uuid] in
/-- `verify_token` on what `jwt.decode` returns; none when that raises. -/
def verifyJwt (payload : Option Payload) (tokenType : String) : Except Failure (TokenData Uuid) :=
  let refused := Except.error (.httpException 401 "Could not validate credentials")
  match payload with
  | none => refused
  | some payload =>
    if payload.type ≠ some tokenType then refused
    else
      match payload.sub, payload.email with
      | some sub, some email =>
        match settings.uuid sub, payload.sessionId.filter fun text => !text.isEmpty with
        | none, _ => .error .raised
        | some userId, none => .ok { userId, email, sessionId := none }
        | some userId, some text =>
          match settings.uuid text with
          | none => .error .raised
          | some sessionId => .ok { userId, email, sessionId := some sessionId }
      | _, _ => refused

/-- The check of the session that a refresh token names; an expired one is deleted. -/
def checkSession (data : TokenData Uuid) (now : Int) : Accounts Uuid × Option Failure :=
  match data.sessionId with
  | none => (accounts, none)
  | some sessionId =>
    match accounts.sessions.lookup sessionId with
    | none => (accounts, some (.httpException 401 "Session expired or invalid"))
    | some session =>
      if session.expiresAt < now then
        ({ accounts with sessions := accounts.sessions.erase sessionId },
          some (.httpException 401 "Session expired"))
      else (accounts, none)

/-- `refresh_session`, which does not read the status of the user. -/
def refreshSession (payload : Option Payload) (now : Int) :
    Accounts Uuid × Except Failure (Response Uuid) :=
  match verifyJwt settings payload "refresh" with
  | .error failure => (accounts, .error failure)
  | .ok data =>
    match checkSession accounts data now with
    | (checked, some failure) => (checked, .error failure)
    | (checked, none) =>
      let user := (checked.users.lookup data.userId).map fun user => (data.userId, user)
      (checked, .ok (.refreshed
        (tokenClaims settings checked "access" data.email data.userId data.sessionId user)))

/-- `verify_email`, which activates the account whatever its status. -/
def verifyEmail (token : String) (now : Int) : Accounts Uuid × Except Failure (Response Uuid) :=
  match accounts.emailVerifications.find? fun row => row.token == token with
  | none => (accounts, .error (.httpException 400 "Invalid verification token"))
  | some verification =>
    if verification.expiresAt < now then
      (accounts, .error (.httpException 400 "Verification token expired"))
    else
      let verified :=
        match accounts.users.lookup verification.userId with
        | none => accounts
        | some user =>
          accounts.storeUser verification.userId
            { user with emailVerified := true, status := .active }
      ({ verified with emailVerifications := verified.emailVerifications.erase verification },
        .ok (.message "Email verified successfully"))

def requestPasswordReset (email token : String) (now : Int) :
    Accounts Uuid × Except Failure (Response Uuid) :=
  let answer := Except.ok
    (.message "If the email exists, a password reset link has been sent")
  match accounts.findByEmail email with
  | none => (accounts, answer)
  | some (userId, _) =>
    ({ accounts with
      passwordResets := accounts.passwordResets ++
        [{ userId, token, expiresAt := now + hour, used := false }] }, answer)

def applyReset (reset : PasswordReset Uuid) (user : User Uuid) (newPassword : String) :
    Accounts Uuid :=
  let changed : User Uuid := { user with passwordHash := some (settings.hashPassword newPassword) }
  let stored := accounts.storeUser reset.userId
    (if user.status = .pending then { changed with status := .active, emailVerified := true }
      else changed)
  { stored with
    passwordResets := accounts.passwordResets.map fun row =>
      if row = reset then { row with used := true } else row
    sessions := (accounts.sessions.entries.filter fun entry =>
      entry.2.userId != reset.userId).toAList }

def resetPassword (token newPassword : String) (now : Int) :
    Accounts Uuid × Except Failure (Response Uuid) :=
  match accounts.passwordResets.find? fun row => row.token == token && !row.used with
  | none => (accounts, .error (.httpException 400 "Invalid or already used reset token"))
  | some reset =>
    if reset.expiresAt < now then
      (accounts, .error (.httpException 400 "Reset token expired"))
    else
      (match accounts.users.lookup reset.userId with
        | none => accounts
        | some user => applyReset settings accounts reset user newPassword,
        .ok (.message "Password reset successfully"))

end Service

inductive AuthCall (Uuid : Type) where
  | register (request : RegisterRequest) (userId : Uuid) (verificationToken : String)
  | login (request : LoginRequest) (sessionId : Uuid)
  | refreshSession (payload : Option Payload)
  | verifyEmail (token : String)
  | requestPasswordReset (email token : String)
  | resetPassword (token newPassword : String)
  | logout (sessionId : Uuid)

section Calls

variable {Uuid : Type} [DecidableEq Uuid]

def AuthCall.perform (settings : AuthSettings Uuid) (accounts : Accounts Uuid) (now : Int) :
    AuthCall Uuid → Accounts Uuid × Except Failure (Response Uuid)
  | .register request userId verificationToken =>
    registerUser settings accounts request userId verificationToken now
  | .login request sessionId => Auth.login settings accounts request sessionId now
  | .refreshSession payload => Auth.refreshSession settings accounts payload now
  | .verifyEmail token => Auth.verifyEmail accounts token now
  | .requestPasswordReset email token => Auth.requestPasswordReset accounts email token now
  | .resetPassword token newPassword => Auth.resetPassword settings accounts token newPassword now
  | .logout sessionId => Auth.logout accounts sessionId

/-- The accounts, and the access tokens that calls have returned. -/
structure AuthServer (Uuid : Type) where
  accounts : Accounts Uuid
  returned : List Claims

def AuthServer.step (settings : AuthSettings Uuid) (server : AuthServer Uuid) :
    Int × AuthCall Uuid → Option (AuthServer Uuid)
  | (now, call) =>
    let (accounts, result) := call.perform settings server.accounts now
    some
      { accounts
        returned := server.returned ++
          (result.toOption.bind Response.accessToken).toList }

end Calls

end CogniDQ.Auth
