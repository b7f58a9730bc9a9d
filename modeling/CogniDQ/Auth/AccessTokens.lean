import Mathlib.Tactic.SplitIfs

/-!
# Personal access tokens

`AccessTokenService` stores the hash of a random token and hands out the token with a prefix;
`verify_token` hashes the whole string it is given. No token that is handed out is accepted.
-/

set_option autoImplicit false

namespace CogniDQ.Auth

structure AccessToken (Uuid : Type) where
  id : Uuid
  userId : Uuid
  name : String
  tokenHash : String
  tokenPrefix : String
  scopes : List String
  expiresAt : Option Int
  lastUsedAt : Option Int
  createdAt : Int
  revokedAt : Option Int

def AccessToken.isValid {Uuid : Type} (token : AccessToken Uuid) (now : Int) : Bool :=
  if token.revokedAt.isSome then false
  else token.expiresAt.all fun expiry => !decide (expiry < now)

structure TokenSettings (Uuid : Type) where
  /-- `hashlib.sha256(text.encode()).hexdigest()`. -/
  sha256Hex : String → String
  knownUser : Uuid → Bool

def day : Int := 86400000000

section Service

variable {Uuid : Type} (settings : TokenSettings Uuid)

def generateToken (rawToken : String) : String × String × String :=
  let start := String.ofList (rawToken.toList.take 8)
  ("dqai_" ++ rawToken, settings.sha256Hex rawToken, "dqai_" ++ start)

/-- What a caller of `create_token` provides. -/
structure TokenRequest (Uuid : Type) where
  userId : Uuid
  name : String
  scopes : Option (List String)
  expiresInDays : Option Int

def newToken (request : TokenRequest Uuid) (rawToken : String) (generated : Uuid) (now : Int) :
    AccessToken Uuid × String :=
  let (plainToken, tokenHash, tokenPrefix) := generateToken settings rawToken
  let expiresAt := request.expiresInDays.bind fun days =>
    if days = 0 then none else some (now + days * day)
  ({ id := generated
     userId := request.userId
     name := request.name
     tokenHash
     tokenPrefix
     scopes := request.scopes.getD []
     expiresAt
     lastUsedAt := none
     createdAt := now
     revokedAt := none }, plainToken)

variable [DecidableEq Uuid]

/-- The `INSERT` of a token; none when a constraint of the table refuses it. -/
def insertToken (tokens : List (AccessToken Uuid)) (token : AccessToken Uuid) :
    Option (List (AccessToken Uuid)) :=
  if settings.knownUser token.userId ∧ 1 ≤ token.name.length ∧ token.name.length ≤ 255 ∧
      (∀ other ∈ tokens, other.id ≠ token.id ∧ other.tokenHash ≠ token.tokenHash) then
    some (tokens ++ [token])
  else none

def createToken (tokens : List (AccessToken Uuid)) (request : TokenRequest Uuid)
    (rawToken : String) (generated : Uuid) (now : Int) :
    Option (List (AccessToken Uuid) × AccessToken Uuid × String) :=
  let (token, plainToken) := newToken settings request rawToken generated now
  (insertToken settings tokens token).map fun inserted => (inserted, token, plainToken)

omit [DecidableEq Uuid] in
def getTokenByHash (tokens : List (AccessToken Uuid)) (tokenHash : String) :
    Option (AccessToken Uuid) :=
  tokens.find? fun token => token.tokenHash == tokenHash

def storeToken (tokens : List (AccessToken Uuid)) (token : AccessToken Uuid) :
    List (AccessToken Uuid) :=
  tokens.map fun row => if row.id = token.id then token else row

/-- The token that a string authenticates, and the rows with its time of use. -/
def verifyToken (tokens : List (AccessToken Uuid)) (plainToken : String) (now : Int) :
    Option (AccessToken Uuid) × List (AccessToken Uuid) :=
  match getTokenByHash tokens (settings.sha256Hex plainToken) with
  | none => (none, tokens)
  | some token =>
    if token.isValid now then
      let used := { token with lastUsedAt := some now }
      (some used, storeToken tokens used)
    else (none, tokens)

def findOwn (tokens : List (AccessToken Uuid)) (tokenId userId : Uuid) :
    Option (AccessToken Uuid) :=
  tokens.find? fun token => token.id == tokenId && token.userId == userId

def revokeToken (tokens : List (AccessToken Uuid)) (tokenId userId : Uuid) (now : Int) :
    Bool × List (AccessToken Uuid) :=
  match findOwn tokens tokenId userId with
  | none => (false, tokens)
  | some token => (true, storeToken tokens { token with revokedAt := some now })

def deleteToken (tokens : List (AccessToken Uuid)) (tokenId userId : Uuid) :
    Bool × List (AccessToken Uuid) :=
  match findOwn tokens tokenId userId with
  | none => (false, tokens)
  | some token => (true, tokens.filter fun row => row.id != token.id)

end Service

inductive TokenCall (Uuid : Type) where
  | create (request : TokenRequest Uuid) (rawToken : String) (generated : Uuid)
  | verify (plainToken : String)
  | revoke (tokenId userId : Uuid)
  | delete (tokenId userId : Uuid)

/-- The rows of the table, and what `create_token` has handed out. -/
structure Registry (Uuid : Type) where
  tokens : List (AccessToken Uuid)
  issued : List (Uuid × String)

namespace Registry

variable {Uuid : Type} [DecidableEq Uuid] (settings : TokenSettings Uuid)

/-- A call at its time; a creation that raises leaves the table as it is. -/
def step (registry : Registry Uuid) : Int × TokenCall Uuid → Registry Uuid
  | (now, .create request rawToken generated) =>
    match createToken settings registry.tokens request rawToken generated now with
    | none => registry
    | some (tokens, token, plainToken) =>
      { tokens, issued := registry.issued ++ [(token.id, plainToken)] }
  | (now, .verify plainToken) =>
    { registry with tokens := (verifyToken settings registry.tokens plainToken now).2 }
  | (now, .revoke tokenId userId) =>
    { registry with tokens := (revokeToken registry.tokens tokenId userId now).2 }
  | (_, .delete tokenId userId) =>
    { registry with tokens := (deleteToken registry.tokens tokenId userId).2 }

def after (calls : List (Int × TokenCall Uuid)) : Registry Uuid :=
  calls.foldl (step settings) ⟨[], []⟩

/-- Every token that is handed out authenticates its row as long as that is valid, and no other
string authenticates any. -/
def Authenticates (registry : Registry Uuid) (now : Int) : Prop :=
  (∀ row ∈ registry.tokens, ∀ plainToken, (row.id, plainToken) ∈ registry.issued →
    ((verifyToken settings registry.tokens plainToken now).1 =
      some { row with lastUsedAt := some now } ↔ row.isValid now = true)) ∧
  ∀ text, (verifyToken settings registry.tokens text now).1.isSome →
    ∃ tokenId, (tokenId, text) ∈ registry.issued

/-- No row is without its token, and none stores the hash of one. -/
structure Sound (registry : Registry Uuid) : Prop where
  owned : ∀ row ∈ registry.tokens, ∃ rawToken,
    (row.id, "dqai_" ++ rawToken) ∈ registry.issued ∧ row.tokenHash = settings.sha256Hex rawToken ∧
      ∀ rest, rawToken ≠ "dqai_" ++ rest
  handed : ∀ tokenId plainToken, (tokenId, plainToken) ∈ registry.issued →
    ∃ rest, plainToken = "dqai_" ++ rest

variable {settings} {registry : Registry Uuid}

theorem mem_storeToken {tokens : List (AccessToken Uuid)} {token row : AccessToken Uuid}
    (member : row ∈ storeToken tokens token)
    (present : ∃ stored ∈ tokens, stored.id = token.id ∧ stored.tokenHash = token.tokenHash) :
    ∃ stored ∈ tokens, stored.id = row.id ∧ stored.tokenHash = row.tokenHash := by
  obtain ⟨stored, storedMember, rfl⟩ := List.mem_map.mp member
  split
  · exact present
  · exact ⟨stored, storedMember, rfl, rfl⟩

omit [DecidableEq Uuid] in
theorem Sound.of_rows (sound : registry.Sound settings) {tokens : List (AccessToken Uuid)}
    (kept : ∀ row ∈ tokens, ∃ stored ∈ registry.tokens,
      stored.id = row.id ∧ stored.tokenHash = row.tokenHash) :
    Sound settings { registry with tokens } := by
  refine ⟨fun row member => ?_, sound.handed⟩
  obtain ⟨stored, storedMember, sameId, sameHash⟩ := kept row member
  rw [← sameId, ← sameHash]
  exact sound.owned stored storedMember

private theorem Sound.create (sound : registry.Sound settings) {request : TokenRequest Uuid}
    {rawToken plainToken : String} {generated : Uuid} {now : Int}
    {tokens : List (AccessToken Uuid)} {token : AccessToken Uuid}
    (unprefixed : ∀ rest, rawToken ≠ "dqai_" ++ rest)
    (created : createToken settings registry.tokens request rawToken generated now =
      some (tokens, token, plainToken)) :
    Sound settings { tokens, issued := registry.issued ++ [(token.id, plainToken)] } := by
  obtain ⟨inserted, insertion, same⟩ := Option.map_eq_some_iff.mp created
  cases same
  unfold insertToken at insertion
  split_ifs at insertion
  cases insertion
  constructor
  · intro row member
    rcases List.mem_append.mp member with before | new
    · obtain ⟨raw, issued, rest⟩ := sound.owned row before
      exact ⟨raw, List.mem_append_left _ issued, rest⟩
    · obtain rfl := List.mem_singleton.mp new
      exact ⟨rawToken, List.mem_append_right _ List.mem_cons_self, rfl, unprefixed⟩
  · intro tokenId plain member
    rcases List.mem_append.mp member with before | new
    · exact sound.handed tokenId plain before
    · cases List.mem_singleton.mp new
      exact ⟨rawToken, rfl⟩

private theorem Sound.verify (sound : registry.Sound settings) (plainToken : String) (now : Int) :
    Sound settings
      { registry with tokens := (verifyToken settings registry.tokens plainToken now).2 } := by
  refine sound.of_rows fun row member => ?_
  unfold verifyToken at member
  split at member
  · exact ⟨row, member, rfl, rfl⟩
  · rename_i token found
    split at member
    · exact mem_storeToken member ⟨token, List.mem_of_find?_eq_some found, rfl, rfl⟩
    · exact ⟨row, member, rfl, rfl⟩

private theorem Sound.revoke (sound : registry.Sound settings) (tokenId userId : Uuid) (now : Int) :
    Sound settings
      { registry with tokens := (revokeToken registry.tokens tokenId userId now).2 } := by
  refine sound.of_rows fun row member => ?_
  unfold revokeToken at member
  split at member
  · exact ⟨row, member, rfl, rfl⟩
  · rename_i token found
    exact mem_storeToken member ⟨token, List.mem_of_find?_eq_some found, rfl, rfl⟩

private theorem Sound.delete (sound : registry.Sound settings) (tokenId userId : Uuid) :
    Sound settings { registry with tokens := (deleteToken registry.tokens tokenId userId).2 } := by
  refine sound.of_rows fun row member => ?_
  unfold deleteToken at member
  split at member
  · exact ⟨row, member, rfl, rfl⟩
  · exact ⟨row, (List.mem_filter.mp member).1, rfl, rfl⟩

private theorem Sound.step (sound : registry.Sound settings) {call : Int × TokenCall Uuid}
    (unprefixed : ∀ request rawToken generated, call.2 = .create request rawToken generated →
      ∀ rest, rawToken ≠ "dqai_" ++ rest) :
    Sound settings (step settings registry call) := by
  obtain ⟨now, call⟩ := call
  cases call with
  | create request rawToken generated =>
      dsimp only [Registry.step]
      split
      · exact sound
      · rename_i created
        exact sound.create (unprefixed request rawToken generated rfl) created
  | verify plainToken => exact sound.verify plainToken now
  | revoke tokenId userId => exact sound.revoke tokenId userId now
  | delete tokenId userId => exact sound.delete tokenId userId

private theorem sound_after {calls : List (Int × TokenCall Uuid)}
    (unprefixed : ∀ now request rawToken generated,
      (now, .create request rawToken generated) ∈ calls → ∀ rest, rawToken ≠ "dqai_" ++ rest) :
    Sound settings (after settings calls) := by
  refine List.foldlRecOn calls _ ⟨nofun, nofun⟩ fun registry sound call listed => ?_
  refine sound.step fun request rawToken generated creates => ?_
  refine unprefixed call.1 request rawToken generated ?_
  rw [← creates]
  exact listed

private theorem Sound.refused (sound : registry.Sound settings)
    (collisionFree : Function.Injective settings.sha256Hex) (rest : String) (now : Int) :
    verifyToken settings registry.tokens ("dqai_" ++ rest) now = (none, registry.tokens) := by
  have absent : getTokenByHash registry.tokens (settings.sha256Hex ("dqai_" ++ rest)) = none := by
    refine List.find?_eq_none.mpr fun row member same => ?_
    obtain ⟨rawToken, _, hashed, unprefixed⟩ := sound.owned row member
    rw [beq_iff_eq, hashed] at same
    exact unprefixed rest (collisionFree same)
  unfold verifyToken
  rw [absent]

/-- The tokens that are handed out authenticate their rows exactly when none of these is valid: a
valid row has a token that is refused. -/
theorem authenticates_iff_none_valid (collisionFree : Function.Injective settings.sha256Hex)
    {calls : List (Int × TokenCall Uuid)}
    (unprefixed : ∀ now request rawToken generated,
      (now, .create request rawToken generated) ∈ calls → ∀ rest, rawToken ≠ "dqai_" ++ rest)
    (now : Int) :
    (after settings calls).Authenticates settings now ↔
      ∀ row ∈ (after settings calls).tokens, row.isValid now = false := by
  have sound : (after settings calls).Sound settings := sound_after unprefixed
  constructor
  · rintro ⟨accepted, _⟩ row member
    obtain ⟨rawToken, issued, _⟩ := sound.owned row member
    have valid := accepted row member _ issued
    rw [sound.refused collisionFree] at valid
    rw [Bool.eq_false_iff]
    intro isValid
    cases valid.mpr isValid
  · intro invalid
    refine ⟨fun row member plainToken issued => ?_, fun text accepted => ?_⟩
    · obtain ⟨rest, rfl⟩ := sound.handed row.id plainToken issued
      rw [sound.refused collisionFree, invalid row member]
      exact ⟨nofun, nofun⟩
    · unfold verifyToken at accepted
      split at accepted
      · cases accepted
      · rename_i token found
        rw [invalid token (List.mem_of_find?_eq_some found)] at accepted
        cases accepted

end Registry

section Histories

private def rawToken : String := "k3vQ8sX1mZ0aT7wR5yB2nC9dE4fG6hJ_LpUoIqWxVtSrNzMeKbYgAw"

private def rawDigest : String :=
  "73488856ada8b8e11b7e42320f9af1f6abcbf25d8b571da9152a9bf7ecd22bbf"

private def plainDigest : String :=
  "ba811458e20ba9f3db0525d6e6a5f9db23b62b76051d5ba4bcae9291edd31369"

/-- SHA-256 on the two strings that matter, and another injective function elsewhere. -/
private def digest (text : String) : String :=
  if text = rawToken then rawDigest
  else if text = "dqai_" ++ rawToken then plainDigest
  else "#" ++ text

private theorem marked_ne {text other : String} (unmarked : other.toList.head? ≠ some '#') :
    "#" ++ text ≠ other := by
  rintro rfl
  rw [String.toList_append] at unmarked
  exact unmarked rfl

private theorem digest_injective : Function.Injective digest := by
  have inverse : Function.LeftInverse (fun text =>
      if text = rawDigest then rawToken
      else if text = plainDigest then "dqai_" ++ rawToken
      else String.ofList text.toList.tail) digest := by
    intro text
    unfold digest
    split_ifs with isRaw isPlain
    · exact isRaw.symm
    · exact isPlain.symm
    · dsimp only
      rw [if_neg (marked_ne (by decide)), if_neg (marked_ne (by decide)), String.toList_append]
      exact String.ofList_toList
  exact inverse.injective

private theorem rawToken_unprefixed (rest : String) : rawToken ≠ "dqai_" ++ rest := by
  intro same
  have heads := congrArg (fun text => text.toList.head?) same
  rw [String.toList_append] at heads
  cases (show some 'k' = some 'd' from heads)

private def tokenSettings : TokenSettings Nat where
  sha256Hex := digest
  knownUser user := user == 5

private def laptop : TokenRequest Nat where
  userId := 5
  name := "laptop"
  scopes := some ["read:datasets"]
  expiresInDays := some 30

private def created : Int × TokenCall Nat := (0, .create laptop rawToken 1)

/-- A valid token is refused, and the string without its prefix accepted. -/
theorem issued_token_refused :
    Function.Injective tokenSettings.sha256Hex ∧ (∀ rest, rawToken ≠ "dqai_" ++ rest) ∧
      (Registry.after tokenSettings [created]).issued = [(1, "dqai_" ++ rawToken)] ∧
      (∀ row ∈ (Registry.after tokenSettings [created]).tokens, row.isValid 1 = true) ∧
      ¬(Registry.after tokenSettings [created]).Authenticates tokenSettings 1 := by
  refine ⟨digest_injective, rawToken_unprefixed, by decide +kernel, by decide +kernel, ?_⟩
  rintro ⟨_, onlyIssued⟩
  obtain ⟨tokenId, issued⟩ := onlyIssued rawToken (by decide +kernel)
  obtain ⟨_, plain⟩ := Prod.mk.inj (List.mem_singleton.mp issued)
  exact rawToken_unprefixed _ plain

/-- A token that is revoked authenticates nobody, as it should. -/
theorem revoked_token_refused :
    (Registry.after tokenSettings [created, (2, .revoke 1 5)]).Authenticates tokenSettings 3 := by
  refine (Registry.authenticates_iff_none_valid digest_injective ?_ 3).mpr (by decide +kernel)
  intro now request raw generated listed
  simp only [created, List.mem_cons, Prod.mk.injEq, TokenCall.create.injEq, List.not_mem_nil,
    reduceCtorEq, and_false, or_false] at listed
  obtain ⟨_, _, rfl, _⟩ := listed
  exact rawToken_unprefixed

end Histories

end CogniDQ.Auth
