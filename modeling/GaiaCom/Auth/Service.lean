/-
auth_service.go: logging in, refreshing, changing the password, logging out, revoking sessions and keys, and
validating an access token. Each call is the sequence of its database statements; what stands between two
statements is part of the step of the second one. Calls run side by side (`Lib.Pool`).
-/
import GaiaCom.Auth.Store
import GaiaCom.Lib.Pool

namespace GaiaCom.Auth

open Lib Core GaiaCom.Store

/-! ## Calls -/

/-- SHA-256 in hex, which is assumed to be injective. -/
structure Digest where
  hash : String → String
  injective : Function.Injective hash
  hash_ne_empty : ∀ raw, hash raw ≠ ""

/-- What the world provides for one step: the clock, random values, and whether the statement or drawing random
bytes fails. -/
structure Tick where
  now : Nat
  now_ne : now ≠ 0
  sessionID : UUID
  secret : List UInt8
  salt : Nat
  fails : Bool
  drawFails : Bool

/-- A call with its arguments. For `validate` these are subject and session of a token that passed all checks on the
token itself. -/
inductive Request where
  | login (username password : String)
  | refresh (rawToken : String)
  | changePassword (userID currentSessionID : UUID) (currentPassword newPassword : String)
  | logout (userID sessionID : UUID)
  | revokeDeviceSession (userID sessionID currentSessionID : UUID)
  | revokeKey (userID keyID : UUID)
  | validate (userID : UUID) (sessionID : Option UUID)
  deriving DecidableEq

inductive AuthError where
  | credentials | refreshToken | replay | rotation | passwordLength | session | currentSession | keyRevocation | token
  | noRows | database
  deriving DecidableEq

/-- How far a call is. -/
inductive Stage where
  | started
  /-- Login: the password matched, the hash is to be replaced. -/
  | rehashing (userID : UUID)
  /-- Login: the session is to be created. -/
  | creating (userID : UUID)
  /-- Login: the refresh token is to be stored. -/
  | created (userID sessionID : UUID)
  /-- Login: the session is to be revoked again. -/
  | abandoned (userID sessionID : UUID) (err : AuthError)
  /-- Refresh: the token is not the current one, the session is to be revoked. -/
  | mismatched (userID sessionID : UUID)
  /-- Refresh: the token was the current one. -/
  | matched (userID sessionID : UUID)
  /-- Refresh: the rotation did not happen, the session is to be revoked. -/
  | unrotated (userID sessionID : UUID)
  /-- Refresh: the token has been exchanged for the next one. -/
  | rotated (userID sessionID : UUID) (nextToken : String)
  /-- Password change: the current password matched. -/
  | verified
  /-- The call has returned an error; `exchanged` says whether a refresh token was exchanged before. -/
  | failed (err : AuthError) (exchanged : Bool)
  /-- The call has succeeded, for a session where there is one. -/
  | succeeded (userID : UUID) (sessionID : Option UUID)
  deriving DecidableEq

structure Call where
  request : Request
  stage : Stage
  deriving DecidableEq

def Call.begin (request : Request) : Call := ⟨request, .started⟩

/-- `newRefreshToken`. -/
def newRefreshToken (sessionID : UUID) (secret : List UInt8) : String := sessionID.text ++ "." ++ hexEncode secret

def sessionOf (rawToken : String) : Option UUID :=
  let cs := trim rawToken.toList
  if '.' ∈ cs then (parse (String.ofList (cs.takeWhile (· ≠ '.')))).filter fun id => id ≠ .nil else none

def refreshTokenTTL : Nat := 30 * 24 * hour

/-! ## Steps -/

section Steps

variable (d : Digest) (tick : Tick) (db : Database)

/-- `LoginUserWithDevice`. -/
def nextLogin (username password : String) : Stage → Database × Stage
  | .started =>
    match if tick.fails then none else findUserByUsername db (trimSpace username) with
    | none => (db, .failed .credentials false)
    | some (userID, user) =>
      match verifyPassword password user.passwordHash with
      | none => (db, .failed .credentials false)
      | some needsRehash => (db, if needsRehash then .rehashing userID else .creating userID)
  | .rehashing userID =>
    -- errors of hashing and of the statement are ignored
    if tick.fails || tick.drawFails then (db, .creating userID)
    else (updateUserPasswordHash db userID (hashPassword password tick.salt), .creating userID)
  | .creating userID =>
    match if tick.fails then none else createDeviceSession db userID tick.sessionID password with
    | none => (db, .failed .database false)
    | some db => (db, .created userID tick.sessionID)
  | .created userID sessionID =>
    if tick.drawFails then (db, .abandoned userID sessionID .database)
    else
      match if tick.fails then none
        else setDeviceSessionRefresh db sessionID (d.hash (newRefreshToken sessionID tick.secret))
          (tick.now + refreshTokenTTL) with
      | none => (db, .abandoned userID sessionID (if tick.fails then .database else .noRows))
      | some db => (db, .succeeded userID (some sessionID))
  | .abandoned userID sessionID err =>
    (if tick.fails then db else revokeDeviceSession db tick.now userID sessionID, .failed err false)
  | stage => (db, stage)

/-- `RefreshSession`. -/
def nextRefresh (rawToken : String) : Stage → Database × Stage
  | .started =>
    match sessionOf rawToken with
    | none => (db, .failed .refreshToken false)
    | some sessionID =>
      match if tick.fails then none else db.sessions.get? sessionID with
      | none => (db, .failed .refreshToken false)
      | some session =>
        if parseTime session.revokedAt ≠ 0 ∨ parseTime session.refreshExpiresAt < tick.now then
          (db, .failed .refreshToken false)
        else if session.refreshTokenHash ≠ d.hash rawToken then (db, .mismatched session.userID sessionID)
        else (db, .matched session.userID sessionID)
  | .mismatched userID sessionID =>
    (if tick.fails then db else revokeDeviceSession db tick.now userID sessionID, .failed .replay false)
  | .matched userID sessionID =>
    if tick.drawFails then (db, .failed .database false)
    else
      match if tick.fails then none
        else rotateDeviceSessionRefresh db tick.now sessionID (d.hash rawToken)
          (d.hash (newRefreshToken sessionID tick.secret)) (tick.now + refreshTokenTTL) with
      | none => (db, .unrotated userID sessionID)
      | some db => (db, .rotated userID sessionID (newRefreshToken sessionID tick.secret))
  | .unrotated userID sessionID =>
    (if tick.fails then db else revokeDeviceSession db tick.now userID sessionID, .failed .rotation false)
  | .rotated userID sessionID _ =>
    if tick.fails || (db.users.get? userID).isNone then (db, .failed .database true)
    else (db, .succeeded userID (some sessionID))
  | stage => (db, stage)

/-- `ChangePassword`. -/
def nextChange (userID currentSessionID : UUID) (currentPassword newPassword : String) : Stage → Database × Stage
  | .started =>
    if userID = .nil then (db, .failed .credentials false)
    else if len newPassword < 12 ∨ 512 < len newPassword then (db, .failed .passwordLength false)
    else
      match (if tick.fails then none else db.users.get? userID).bind fun user =>
        verifyPassword currentPassword user.passwordHash with
      | none => (db, .failed .credentials false)
      | some _ => (db, .verified)
  | .verified =>
    if tick.drawFails then (db, .failed .database false)
    else
      match if tick.fails then none
        else updateUserPasswordAndRevokeSessions db tick.now userID (hashPassword newPassword tick.salt)
          currentSessionID with
      | none => (db, .failed (if tick.fails then .database else .noRows) false)
      | some db => (db, .succeeded userID none)
  | stage => (db, stage)

/-- The store's `RevokeDeviceSession` at the end of `Logout` and of the service's `RevokeDeviceSession`. -/
def runRevoke (userID sessionID : UUID) : Database × Stage :=
  if tick.fails then (db, .failed .database false)
  else (revokeDeviceSession db tick.now userID sessionID,
    if (db.sessions.get? sessionID).any (revocable userID sessionID sessionID) then .succeeded userID (some sessionID)
    else .failed .noRows false)

def nextLogout (userID sessionID : UUID) : Stage → Database × Stage
  | .started =>
    if userID = .nil ∨ sessionID = .nil then (db, .failed .session false) else runRevoke tick db userID sessionID
  | stage => (db, stage)

def nextRevokeSession (userID sessionID currentSessionID : UUID) : Stage → Database × Stage
  | .started =>
    if sessionID = .nil then (db, .failed .session false)
    else if currentSessionID ≠ .nil ∧ sessionID = currentSessionID then (db, .failed .currentSession false)
    else runRevoke tick db userID sessionID
  | stage => (db, stage)

/-- `RevokeKey` of the device service. -/
def nextRevokeKey (userID keyID : UUID) : Stage → Database × Stage
  | .started =>
    if userID = .nil ∨ keyID = .nil then (db, .failed .keyRevocation false)
    else
      match if tick.fails then none else revokeDeviceKey db tick.now userID keyID with
      | none => (db, .failed (if tick.fails then .database else .noRows) false)
      | some db => (db, .succeeded userID none)
  | stage => (db, stage)

/-- `ValidateTokenWithSession`. -/
def nextValidate (userID : UUID) (sessionID : Option UUID) : Stage → Database × Stage
  | .started =>
    match sessionID with
    | none => (db, .succeeded userID none)
    | some id =>
      match if tick.fails then none else findActiveDeviceSession db id with
      | none => (db, .failed .token false)
      | some session =>
        (db, if session.userID = userID then .succeeded userID (some id) else .failed .token false)
  | stage => (db, stage)

def nextStage : Request → Stage → Database × Stage
  | .login username password => nextLogin d tick db username password
  | .refresh rawToken => nextRefresh d tick db rawToken
  | .changePassword userID currentSessionID currentPassword newPassword =>
    nextChange tick db userID currentSessionID currentPassword newPassword
  | .logout userID sessionID => nextLogout tick db userID sessionID
  | .revokeDeviceSession userID sessionID currentSessionID => nextRevokeSession tick db userID sessionID currentSessionID
  | .revokeKey userID keyID => nextRevokeKey tick db userID keyID
  | .validate userID sessionID => nextValidate tick db userID sessionID

def next (call : Call) : Database × Call :=
  ((nextStage d tick db call.request call.stage).1, ⟨call.request, (nextStage d tick db call.request call.stage).2⟩)

end Steps

/-- The database and the calls over it. -/
abbrev System := Pool Database Call

abbrev Event := Pool.Event Request Tick

def step (d : Digest) : System → Event → System := Pool.step Call.begin (next d)

/-! ## What a step does -/

section Effects

variable (d : Digest) (tick : Tick) (db : Database)

def madeBy : Call → Option (UUID × String)
  | ⟨.login _ password, .creating userID⟩ => some (userID, password)
  | _ => none

variable {fresh : String} {made : Option (UUID × String)}

theorem runRevoke_evolves (userID sessionID id : UUID) :
    Evolves fresh made (db.sessions.get? id) ((runRevoke tick db userID sessionID).1.sessions.get? id) := by
  grind [runRevoke, evolves_revoke, Evolves]

theorem tried_revoke_evolves (userID sessionID id : UUID) : Evolves fresh made (db.sessions.get? id)
      ((if tick.fails then db else revokeDeviceSession db tick.now userID sessionID).sessions.get? id) := by
  split
  · exact .same
  exact evolves_revoke _ _ _ _

theorem next_evolves (call : Call) (id : UUID) :
    Evolves (d.hash (newRefreshToken id tick.secret)) (madeBy call) (db.sessions.get? id)
      ((next d tick db call).1.sessions.get? id) := by
  obtain ⟨request, stage⟩ := call
  cases request with
  | login username password =>
    simp only [next, nextStage]
    fun_cases nextLogin <;> try first | with_reducible exact .same | exact tried_revoke_evolves tick db _ _ id
    · exact .same
    · grind [evolves_create, madeBy]
    · rename_i userID sessionID _ db' hset
      obtain ⟨-, hset⟩ := Option.ite_none_left_eq_some.1 hset
      by_cases hid : id = sessionID
      · subst hid
        exact evolves_set hset id
      · rw [sessions_other hid hset]
        exact .same
  | refresh rawToken =>
    simp only [next, nextStage]
    fun_cases nextRefresh <;> try first | with_reducible exact .same | exact tried_revoke_evolves tick db _ _ id
    rename_i userID sessionID _ db' hrotate
    obtain ⟨-, hrotate⟩ := Option.ite_none_left_eq_some.1 hrotate
    by_cases hid : id = sessionID
    · subst hid
      exact evolves_rotate hrotate id
    · rw [sessions_other hid hrotate]
      exact .same
  | changePassword userID currentSessionID currentPassword newPassword =>
    simp only [next, nextStage]
    fun_cases nextChange <;> try with_reducible exact .same
    rename_i db' hchange
    exact evolves_change (Option.ite_none_left_eq_some.1 hchange).2 id
  | logout userID sessionID =>
    simp only [next, nextStage]
    fun_cases nextLogout <;> first | with_reducible exact .same | exact runRevoke_evolves tick db userID sessionID id
  | revokeDeviceSession userID sessionID currentSessionID =>
    simp only [next, nextStage]
    fun_cases nextRevokeSession <;> first | with_reducible exact .same | exact runRevoke_evolves tick db userID sessionID id
  | revokeKey userID keyID =>
    simp only [next, nextStage]
    fun_cases nextRevokeKey <;> grind [evolves_revokeKey, Evolves]
  | validate userID sessionID =>
    simp only [next, nextStage]
    fun_cases nextValidate <;> exact .same

end Effects

end GaiaCom.Auth
