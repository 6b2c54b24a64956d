/-
The tables of sql_store_auth.go and its statements on users and device sessions. Every statement that changes a
session asks for `revoked_at = ''`, so a revoked session never changes again.
-/
import GaiaCom.Core.Uuid
import GaiaCom.Core.Validate
import GaiaCom.Lib.Table
import GaiaCom.Store.Column

namespace GaiaCom.Auth

open Lib Core GaiaCom.Store

/-! ## Rows -/

/-- A password hash, as far as `VerifyPassword` tells: the password it accepts, whether its algorithm or parameters
are out of date, and the salt. -/
structure PasswordHash where
  password : String
  outdated : Bool
  salt : Nat
  deriving DecidableEq

/-- `VerifyPassword`: whether the hash needs to be replaced, if the password matches. -/
def verifyPassword (password : String) (hash : PasswordHash) : Option Bool :=
  if hash.password = password then some hash.outdated else none

/-- `HashPassword`. -/
def hashPassword (password : String) (salt : Nat) : PasswordHash := ⟨password, false, salt⟩

/-- A row of users. -/
structure User where
  username : String
  passwordHash : PasswordHash
  deriving DecidableEq

/-- A row of device_sessions. -/
structure Session where
  userID : UUID
  revokedAt : String
  refreshTokenHash : String
  refreshExpiresAt : String
  deviceKeyID : Option UUID
  /-- Not a column: the password that the login that made the session verified. -/
  password : String
  deriving DecidableEq

inductive KeyStatus where
  | active
  | revoked
  deriving DecidableEq

/-- Identity, box key and KEM key, which device_keys keeps unique. -/
abbrev Material := UUID × String × String

/-- A row of device_keys, under its material. -/
structure DeviceKey where
  id : UUID
  userID : UUID
  deviceLabel : String
  signPublic : String
  status : KeyStatus
  createdAt : String
  revokedAt : String
  deriving DecidableEq

/-- Tables of users, sessions and keys. -/
structure Database where
  users : Table UUID User
  sessions : Table UUID Session
  deviceKeys : Table Material DeviceKey

/-! ## Statements -/

section Statements

variable (db : Database)

def findUserByUsername (username : String) : Option (UUID × User) :=
  db.users.rows.find? fun r => toLower r.2.username = toLower username

def updateUserPasswordHash (userID : UUID) (hash : PasswordHash) : Database :=
  { db with users := db.users.updateWhere (fun id _ => id = userID) fun user => { user with passwordHash := hash } }

def revokedByChange (userID keepSessionID : UUID) (id : UUID) (session : Session) : Bool :=
  session.userID = userID && (keepSessionID = .nil || id ≠ keepSessionID) && session.revokedAt = ""

/-- `UpdateUserPasswordAndRevokeSessions`, one transaction; it fails for a user that is not there. -/
def updateUserPasswordAndRevokeSessions (now : Nat) (userID : UUID) (hash : PasswordHash) (keepSessionID : UUID) :
    Option Database :=
  if (db.users.get? userID).isNone then none
  else some { updateUserPasswordHash db userID hash with
    sessions := db.sessions.updateWhere (revokedByChange userID keepSessionID)
      fun session => { session with revokedAt := formatTime now } }

/-- `CreateDeviceSession`; it fails for an id that is taken or a user that is not there. -/
def createDeviceSession (userID sessionID : UUID) (password : String) : Option Database :=
  if (db.sessions.get? sessionID).isSome || (db.users.get? userID).isNone then none
  else some { db with sessions := db.sessions.insertOrIgnore sessionID ⟨userID, "", "", "", none, password⟩ }

def setDeviceSessionRefresh (sessionID : UUID) (tokenHash : String) (expiresAt : Nat) : Option Database :=
  if (db.sessions.get? sessionID).any fun session => session.revokedAt = "" then
    some { db with
      sessions := db.sessions.updateWhere (fun id session => id = sessionID && session.revokedAt = "")
        fun session => { session with refreshTokenHash := tokenHash, refreshExpiresAt := formatTime expiresAt } }
  else none

/-- The condition of `RotateDeviceSessionRefresh`; the expiry is compared as a text. -/
def rotatable (now : Nat) (expectedHash : String) (session : Session) : Bool :=
  session.revokedAt = "" && session.refreshTokenHash = expectedHash && formatTime now < session.refreshExpiresAt

def rotateDeviceSessionRefresh (now : Nat) (sessionID : UUID) (expectedHash nextHash : String) (nextExpiresAt : Nat) :
    Option Database :=
  if (db.sessions.get? sessionID).any (rotatable now expectedHash) then
    some { db with
      sessions := db.sessions.updateWhere (fun id session => id = sessionID && rotatable now expectedHash session)
        fun session => { session with refreshTokenHash := nextHash, refreshExpiresAt := formatTime nextExpiresAt } }
  else none

/-- The condition of `RevokeDeviceSession`. -/
def revocable (userID sessionID : UUID) (id : UUID) (session : Session) : Bool :=
  id = sessionID && session.userID = userID && session.revokedAt = ""

def revokeDeviceSession (now : Nat) (userID sessionID : UUID) : Database :=
  { db with sessions := db.sessions.updateWhere (revocable userID sessionID) fun session =>
      { session with revokedAt := formatTime now } }

def findActiveDeviceSession (sessionID : UUID) : Option Session :=
  (db.sessions.get? sessionID).filter fun session => session.revokedAt = ""

/-- The key that `RevokeDeviceKey` looks for. -/
def activeKey (userID keyID : UUID) (_ : Material) (key : DeviceKey) : Bool :=
  key.id = keyID && key.userID = userID && key.status = .active

/-- `RevokeDeviceKey`, one transaction; it fails if there is no such active key. -/
def revokeDeviceKey (now : Nat) (userID keyID : UUID) : Option Database :=
  if db.deviceKeys.countWhere (activeKey userID keyID) ≠ 1 then none
  else some { db with
    deviceKeys := db.deviceKeys.updateWhere (activeKey userID keyID)
      fun key => { key with status := .revoked, revokedAt := formatTime now }
    sessions := db.sessions.updateWhere
      (fun _ session => session.userID = userID && session.deviceKeyID = some keyID && session.revokedAt = "")
      fun session => { session with revokedAt := formatTime now, refreshTokenHash := "", refreshExpiresAt := "" } }

end Statements

/-! ## What a statement does to a session -/

/-- A row that is changed was not revoked, and stays the session of the same user and login. Its refresh hash is
kept, cleared, or becomes `fresh`. -/
def Changes (fresh : String) (old new : Session) : Prop :=
  old.revokedAt = "" ∧ new.userID = old.userID ∧ new.password = old.password ∧
    (new.refreshTokenHash = old.refreshTokenHash ∨ new.refreshTokenHash = "" ∨ new.refreshTokenHash = fresh)

/-- What may have become of a session: it is as it was, or changed, or it is new, of the user and login `made`. -/
inductive Evolves (fresh : String) (made : Option (UUID × String)) : Option Session → Option Session → Prop where
  | same {old : Option Session} : Evolves fresh made old old
  | changed {old new : Session} : Changes fresh old new → Evolves fresh made (some old) (some new)
  | created {userID : UUID} {password : String} : made = some (userID, password) →
      Evolves fresh made none (some ⟨userID, "", "", "", none, password⟩)

section Evolution

variable {db : Database} {fresh : String} {made : Option (UUID × String)}

theorem evolves_updateWhere {p : UUID → Session → Bool} {f : Session → Session}
    (h : ∀ id session, p id session = true → Changes fresh session (f session)) (id : UUID) :
    Evolves fresh made (db.sessions.get? id) ((db.sessions.updateWhere p f).get? id) := by
  rw [Table.get?_updateWhere]
  cases db.sessions.get? id with
  | none => exact .same
  | some session =>
    grind [Evolves]

variable {db' : Database} {now : Nat} {userID : UUID}

theorem evolves_change {keepSessionID : UUID} {hash : PasswordHash}
    (h : updateUserPasswordAndRevokeSessions db now userID hash keepSessionID = some db') (id : UUID) :
    Evolves fresh made (db.sessions.get? id) (db'.sessions.get? id) := by
  unfold updateUserPasswordAndRevokeSessions at h
  split at h
  · cases h
  rw [← Option.some.inj h]
  refine evolves_updateWhere (fun _ session hp => ?_) id
  grind [revokedByChange, Changes]

variable {sessionID : UUID}

theorem evolves_create {password : String}
    (h : createDeviceSession db userID sessionID password = some db') (id : UUID) :
    Evolves fresh (some (userID, password)) (db.sessions.get? id) (db'.sessions.get? id) := by
  grind [createDeviceSession, Option.isSome_eq_false_iff, Option.isNone_iff_eq_none, Table.get?_insertOrIgnore,
    Evolves]

/-- A statement about one session leaves the others. -/
theorem sessions_other {c : Bool} {p : Session → Bool} {f : Session → Session} {id : UUID} (hne : id ≠ sessionID)
    (h : (if c then some { db with sessions := db.sessions.updateWhere (fun id s => id = sessionID && p s) f } else none) =
      some db') : db'.sessions.get? id = db.sessions.get? id := by
  obtain ⟨-, h⟩ := Option.ite_none_right_eq_some.1 h
  rw [← Option.some.inj h]
  simp [hne]

theorem evolves_set {expiresAt : Nat}
    (h : setDeviceSessionRefresh db sessionID fresh expiresAt = some db') (id : UUID) :
    Evolves fresh made (db.sessions.get? id) (db'.sessions.get? id) := by
  unfold setDeviceSessionRefresh at h
  split at h
  · rw [← Option.some.inj h]
    refine evolves_updateWhere (fun _ session hp => ?_) id
    grind [Changes]
  · cases h

theorem evolves_rotate {expectedHash : String} {nextExpiresAt : Nat}
    (h : rotateDeviceSessionRefresh db now sessionID expectedHash fresh nextExpiresAt = some db') (id : UUID) :
    Evolves fresh made (db.sessions.get? id) (db'.sessions.get? id) := by
  unfold rotateDeviceSessionRefresh at h
  split at h
  · rw [← Option.some.inj h]
    refine evolves_updateWhere (fun _ session hp => ?_) id
    grind [rotatable, Changes]
  · cases h

theorem evolves_revoke (now : Nat) (userID sessionID : UUID) (id : UUID) :
    Evolves fresh made (db.sessions.get? id) ((revokeDeviceSession db now userID sessionID).sessions.get? id) := by
  refine evolves_updateWhere (fun _ session hp => ?_) id
  grind [revocable, Changes]

theorem evolves_revokeKey {keyID : UUID} (h : revokeDeviceKey db now userID keyID = some db') (id : UUID) :
    Evolves fresh made (db.sessions.get? id) (db'.sessions.get? id) := by
  unfold revokeDeviceKey at h
  split at h
  · cases h
  rw [← Option.some.inj h]
  refine evolves_updateWhere (fun _ session hp => ?_) id
  grind [Changes]

theorem Evolves.revoked {old new : Option Session} (h : Evolves fresh made old new) {session : Session}
    (hold : old = some session) (hrevoked : session.revokedAt ≠ "") : new = some session := by
  cases h with
  | same => exact hold
  | changed hc =>
    obtain rfl := Option.some.inj hold
    exact absurd hc.1 hrevoked
  | created => cases hold

end Evolution

theorem formatTime_ne_empty {now : Nat} (h : now ≠ 0) : formatTime now ≠ "" := by
  intro hempty
  have htext := formatTime_of_ne h
  rw [hempty] at htext
  have hlen := congrArg List.length htext
  simp [rfc3339Nano] at hlen

theorem revoked_of_revoke {db : Database} {now : Nat} (hnow : now ≠ 0) {userID sessionID : UUID} {session : Session}
    (h : db.sessions.get? sessionID = some session) (huser : session.userID = userID) :
    ∃ session', (revokeDeviceSession db now userID sessionID).sessions.get? sessionID = some session' ∧
      session'.revokedAt ≠ "" := by
  simp only [revokeDeviceSession, Table.get?_updateWhere, h, Option.map_some, Option.some.injEq, exists_eq_left']
  by_cases hrevoked : session.revokedAt = ""
  · grind [revocable, formatTime_ne_empty]
  grind [revocable]

end GaiaCom.Auth
