/-
room_service.go: creating rooms and changing their settings, the three ways to join, leaving and kicking, roles,
transfer of ownership and deletion. Each call is the sequence of its database statements; `FindRoomByID` is two of
them. What stands between two statements is part of the step of the first one. Calls run side by side (`Lib.Pool`).
The moderation log is left out: it is written after the fact and its errors are ignored.
-/
import GaiaCom.Core.Validate
import GaiaCom.Lib.Json
import GaiaCom.Lib.Pool
import GaiaCom.Rooms.Store

namespace GaiaCom.Rooms

open Lib Core GaiaCom.Store

/-! ## Calls -/

/-- What the world provides for one step: the clock, an id that is drawn, and whether the statement fails. -/
structure Tick where
  now : Nat
  id : UUID
  fails : Bool
  deriving DecidableEq

/-- `CreateRoomRequest`. -/
structure CreateRoomRequest where
  name : String
  isPublic : Bool
  description : String
  avatar : String
  memberIDs : List String
  deriving DecidableEq

/-- The arguments of `UpdateRoom`; what is `none` is left as it is. -/
structure UpdateRoomRequest where
  name : String
  description : String
  avatar : String
  isPrivate : Option Bool
  readOnly : Option Bool
  slowModeSeconds : Option Int
  topSecret : Option Bool
  deriving DecidableEq

/-- A call with its arguments. -/
inductive Request where
  | createRoom (userID : UUID) (req : CreateRoomRequest)
  | updateRoom (userID roomID : UUID) (req : UpdateRoomRequest)
  | joinRoomByHash (userID identityID : UUID) (hash : String)
  | leaveRoom (userID roomID identityID : UUID)
  | updateMemberRole (userID roomID targetID : UUID) (role : String)
  | deleteRoom (userID roomID : UUID)
  | kickMember (userID roomID targetID : UUID)
  | transferOwnership (userID roomID targetID : UUID)
  | createRoomInviteLink (userID roomID identityID : UUID) (expiresAfterSeconds maxUses : Int)
  | joinRoomViaInviteLink (userID identityID : UUID) (token : String)
  | createRoomJoinRequest (userID identityID roomID : UUID)
  | moderateRoomJoinRequest (userID roomID reqID : UUID) (status : String)
  deriving DecidableEq

def Request.userID : Request → UUID
  | .createRoom userID _ => userID
  | .updateRoom userID _ _ => userID
  | .joinRoomByHash userID _ _ => userID
  | .leaveRoom userID _ _ => userID
  | .updateMemberRole userID _ _ _ => userID
  | .deleteRoom userID _ => userID
  | .kickMember userID _ _ => userID
  | .transferOwnership userID _ _ => userID
  | .createRoomInviteLink userID _ _ _ _ => userID
  | .joinRoomViaInviteLink userID _ _ => userID
  | .createRoomJoinRequest userID _ _ => userID
  | .moderateRoomJoinRequest userID _ _ _ => userID

inductive RoomError where
  | name | description | avatar | memberSet | creator | creatorOwner | memberID | create | identityOwner | identityUser
  | notAdmin | groupAdmin | downgrade | unresolvable | record | capability | hash | join | role | roleOrMember | kickAdmins | target
  | kickOwner | kickAdmin | notOwner | inviteAdmins | invite | expired | used | requestAdmins | status | noRows | database
  deriving DecidableEq

/-- A room as `FindRoomByID` returns it. -/
structure LoadedRoom where
  id : UUID
  room : Room
  members : List RoomMember
  deriving DecidableEq

/-- How far a call is. -/
inductive Stage where
  | started
  /-- The user owns the identity or is an admin of the room. -/
  | authorized
  /-- Creating a link: the user also is an admin of the room. -/
  | entitled
  /-- Joining by a link: the link is good. -/
  | invited (roomID : UUID)
  /-- The room's row is read, its members are next. -/
  | read (roomID : UUID) (room : Room)
  /-- The member is to be added. -/
  | joining (roomID : UUID)
  /-- Joining by a link: the use is to be counted. -/
  | counting (roomID : UUID)
  /-- The settings are to be written. -/
  | updating (settings : Settings)
  /-- The member is to be removed. -/
  | kicking
  /-- Transfer: the owner is to become an admin. -/
  | transferring (actorID : UUID)
  /-- Transfer: the new owner is to be made. -/
  | demoted (actorID : UUID)
  /-- Transfer: the new owner could not be made, the old one is to be restored. -/
  | restoring (actorID : UUID) (err : RoomError)
  /-- Moderation: the request is updated and to be read. -/
  | moderated (status : RequestStatus)
  /-- Moderation: the requester is to be added. -/
  | approved (identityID : UUID)
  /-- Creation: the channel is to be created. -/
  | created (roomID : UUID)
  /-- The room is to be read for the result. -/
  | reloading (roomID : UUID)
  | reloaded (roomID : UUID) (room : Room)
  | failed (err : RoomError)
  | succeeded (result : Option LoadedRoom)
  deriving DecidableEq

structure Call where
  request : Request
  stage : Stage
  deriving DecidableEq

def Call.begin (request : Request) : Call := ⟨request, .started⟩

/-! ## Checks -/

/-- `strings.ToLower` as far as the result is ASCII. -/
def lowerRune (c : Char) : Char :=
  if c.toNat = 0x130 then 'i' else if c.toNat = 0x212A then 'k' else lowerChar c

/-- `validRoomAvatar`. -/
def validRoomAvatar (value : String) : Bool :=
  let lower := value.toList.map lowerRune
  value = "" ||
    !(["http://", "https://", "javascript:", "data:"].any fun scheme => scheme.toList.isPrefixOf lower) &&
      value.toList.all (fun c => c ≠ '/' && c ≠ '\\' && c ≠ '<' && c ≠ '>') &&
      value.toList.length ≤ 16 && len value ≤ 64

/-- `validateRoomMetadata`. -/
def validateRoomMetadata (name description avatar : String) : Except RoomError (String × String × String) := do
  let name := trimSpace name
  let description := trimSpace description
  let avatar := trimSpace avatar
  ensure .name (1 ≤ len name && len name ≤ 80)
  ensure .description (len description ≤ 500)
  ensure .avatar (validRoomAvatar avatar)
  return (name, description, avatar)

/-- The key a public record has for ML-DSA-87; `none` if the record cannot be read. -/
def mldsa87 (publicRecord : String) : Option String := do
  let ms ← (← Json.parse publicRecord).members
  Json.stringField "mldsa87" (← Json.structField "public_keys" ms)

def capable (publicRecord : String) : Bool := (mldsa87 publicRecord).any fun key => trimSpace key ≠ ""

/-- `requireTopSecretCapabilities`. -/
def requireTopSecretCapabilities : List RoomMember → Except RoomError Unit
  | [] => .ok ()
  | m :: members =>
    match m.identity with
    | none => .error .unresolvable
    | some ident =>
      match mldsa87 ident.publicRecord with
      | none => .error .record
      | some key => if trimSpace key = "" then .error .capability else requireTopSecretCapabilities members

/-- What `UpdateRoom` writes, from the room it has read. -/
def newSettings (req : UpdateRoomRequest) (room : Room) (members : List RoomMember) : Except RoomError Settings := do
  let (name, description, avatar) ← validateRoomMetadata req.name req.description req.avatar
  ensure .downgrade !(room.topSecret && req.topSecret = some false)
  if req.topSecret = some true then requireTopSecretCapabilities members
  return ⟨name, description, avatar, req.isPrivate.getD room.isPrivate, req.readOnly.getD room.readOnly,
    req.slowModeSeconds.getD room.slowModeSeconds, req.topSecret.getD room.topSecret⟩

/-- The checks of `KickMember`. The target is judged by its last row, the caller by their first. -/
def checkKick (members : List RoomMember) (userID targetID : UUID) : Except RoomError Unit :=
  match members.findRev? fun m => m.identityID = targetID with
  | none => .error .target
  | some target =>
    let actorRole := ((members.find? fun m => m.userID = userID).map RoomMember.role).getD .admin
    if target.role = .owner then .error .kickOwner
    else if target.role = .admin ∧ actorRole ≠ .owner then .error .kickAdmin
    else .ok ()

/-- The checks of `TransferOwnership`: the caller's last row is the owner's, and it is the one to be changed. -/
def checkTransfer (members : List RoomMember) (userID targetID : UUID) : Except RoomError UUID :=
  match members.findRev? fun m => m.userID = userID with
  | none => .error .notOwner
  | some actor =>
    if actor.role ≠ .owner then .error .notOwner
    else if members.any fun m => m.identityID = targetID then .ok actor.identityID
    else .error .target

/-- The roles `UpdateMemberRole` takes. -/
def parseRole (role : String) : Option Role :=
  if trimSpace role = "admin" then some .admin else if trimSpace role = "member" then some .member else none

/-- The decisions `ModerateRoomJoinRequest` takes. -/
def parseStatus (status : String) : Option RequestStatus :=
  if toLower (trimSpace status) = "approved" then some .approved
  else if toLower (trimSpace status) = "rejected" then some .rejected else none

/-- `time.Now().UnixNano()`. -/
def unixNano (now : Nat) : Int := (Int64.ofInt ((now : Int) - 62135596800 * second)).toInt

def newMembers (creatorID : UUID) (ids : List UUID) : List (UUID × Role) :=
  ids.map fun id => (id, if id = creatorID then .owner else .member)

def linkExpiry (now : Nat) (expiresAfterSeconds : Int) : Nat :=
  if expiresAfterSeconds ≤ 0 then now + 365 * 24 * hour
  else ((now : Int) + (Int64.ofInt expiresAfterSeconds * 1000000000).toInt).toNat

/-! ## Steps -/

section Steps

variable (sha256 : String → String) (tick : Tick) (db : Database)

def grant (err : RoomError) (ok : Bool) : Stage :=
  if tick.fails then .failed .database else if ok then .authorized else .failed err

/-- The room's row of `FindRoomByID`. -/
def readRoom (roomID : UUID) : Stage :=
  match if tick.fails then none else db.rooms.get? roomID with
  | none => .failed (if tick.fails then .database else .noRows)
  | some room => .read roomID room

def nextReload : Stage → Stage
  | .reloading roomID =>
    match if tick.fails then none else db.rooms.get? roomID with
    | none => .failed (if tick.fails then .database else .noRows)
    | some room => .reloaded roomID room
  | .reloaded roomID room =>
    if tick.fails then .failed .database else .succeeded (some ⟨roomID, room, findRoomMembers db roomID⟩)
  | stage => stage

def execute (result : Option Database) (ok : Stage) (err : RoomError) : Database × Stage :=
  match if tick.fails then none else result with
  | none => (db, .failed err)
  | some db' => (db', ok)

/-- `CreateRoom`. -/
def nextCreate (userID : UUID) (req : CreateRoomRequest) : Stage → Database × Stage
  | .started =>
    match validateRoomMetadata req.name req.description req.avatar with
    | .error err => (db, .failed err)
    | .ok _ =>
      if req.memberIDs.length = 0 ∨ 512 < req.memberIDs.length then (db, .failed .memberSet)
      else
        match req.memberIDs.head?.bind parse with
        | none => (db, .failed .creator)
        | some creatorID => (db, grant tick .creatorOwner (identityBelongsToUser db creatorID userID))
  | .authorized =>
    match req.memberIDs.mapM parse with
    | none => (db, .failed .memberID)
    | some ids =>
      let creatorID := ids.headD .nil
      let name := trimSpace req.name
      let secretHash := sha256 (name ++ ":" ++ creatorID.text ++ ":" ++ toString (unixNano tick.now))
      execute tick db (createRoomWithMembers db tick.now tick.id
        ⟨name, !req.isPublic, creatorID, trimSpace req.description, trimSpace req.avatar, secretHash, false, 0, false,
          "", ""⟩ (newMembers creatorID ids)) (.created tick.id) .create
  | .created roomID =>
    -- an error is ignored
    (((if tick.fails then none else createChannel db tick.now tick.id roomID "general").getD db), .reloading roomID)
  | stage => (db, nextReload tick db stage)

/-- `UpdateRoom`. -/
def nextUpdate (userID roomID : UUID) (req : UpdateRoomRequest) : Stage → Database × Stage
  | .started =>
    match validateRoomMetadata req.name req.description req.avatar with
    | .error err => (db, .failed err)
    | .ok _ => (db, grant tick .notAdmin (userIsRoomAdmin db userID roomID))
  | .authorized => (db, readRoom tick db roomID)
  | .read _ room =>
    if tick.fails then (db, .failed .database)
    else
      match newSettings req room (findRoomMembers db roomID) with
      | .error err => (db, .failed err)
      | .ok settings => (db, .updating settings)
  | .updating settings =>
    execute tick db (updateRoomSettingsForUser db tick.now userID roomID settings) (.reloading roomID)
      (if tick.fails then .database else .noRows)
  | stage => (db, nextReload tick db stage)

def checkJoin (err : RoomError) (identityID roomID : UUID) (room : Room) : Stage :=
  if tick.fails then .failed err
  else if (findRoomMembers db roomID).any fun m => m.identityID = identityID then
    .succeeded (some ⟨roomID, room, findRoomMembers db roomID⟩)
  else .joining roomID

/-- `JoinRoomByHash`. -/
def nextJoinByHash (userID identityID : UUID) (hash : String) : Stage → Database × Stage
  | .started => (db, grant tick .identityOwner (identityBelongsToUser db identityID userID))
  | .authorized =>
    match if tick.fails then none else findRoomBySecretHash db hash with
    | none => (db, .failed .hash)
    | some (roomID, room) => (db, .read roomID room)
  | .read roomID room => (db, checkJoin tick db .hash identityID roomID room)
  | .joining roomID =>
    execute tick db (addRoomMember db tick.now roomID identityID .member) (.reloading roomID) .join
  | stage => (db, nextReload tick db stage)

/-- `LeaveRoom`. -/
def nextLeave (userID roomID identityID : UUID) : Stage → Database × Stage
  | .started => (db, grant tick .identityOwner (identityBelongsToUser db identityID userID))
  | .authorized => execute tick db (some (removeRoomMember db roomID identityID)) (.succeeded none) .database
  | stage => (db, stage)

/-- `UpdateMemberRole`. Whatever the number of rows, they have been changed. -/
def nextUpdateRole (userID roomID targetID : UUID) (role : String) : Stage → Database × Stage
  | .started =>
    match parseRole role with
    | none => (db, .failed .role)
    | some role =>
      let (db', one) := updateRoomMemberRoleForUser db userID roomID targetID role
      execute tick db (some db') (if one then .succeeded none else .failed .roleOrMember) .roleOrMember
  | stage => (db, stage)

/-- `DeleteRoom`. -/
def nextDelete (userID roomID : UUID) : Stage → Database × Stage
  | .started => (db, grant tick .groupAdmin (userIsRoomAdmin db userID roomID))
  | .authorized => execute tick db (some (deleteRoom db roomID)) (.succeeded none) .database
  | stage => (db, stage)

/-- `KickMember`. -/
def nextKick (userID roomID targetID : UUID) : Stage → Database × Stage
  | .started => (db, grant tick .kickAdmins (userIsRoomAdmin db userID roomID))
  | .authorized => (db, readRoom tick db roomID)
  | .read _ _ =>
    if tick.fails then (db, .failed .database)
    else
      match checkKick (findRoomMembers db roomID) userID targetID with
      | .error err => (db, .failed err)
      | .ok () => (db, .kicking)
  | .kicking => execute tick db (some (removeRoomMember db roomID targetID)) (.succeeded none) .database
  | stage => (db, stage)

/-- `TransferOwnership`. -/
def nextTransfer (userID roomID targetID : UUID) : Stage → Database × Stage
  | .started => (db, readRoom tick db roomID)
  | .read _ _ =>
    if tick.fails then (db, .failed .database)
    else
      match checkTransfer (findRoomMembers db roomID) userID targetID with
      | .error err => (db, .failed err)
      | .ok actorID => (db, .transferring actorID)
  | .transferring actorID =>
    let (db', one) := updateRoomMemberRoleForUser db userID roomID actorID .admin
    execute tick db (some db') (if one then .demoted actorID else .failed .noRows) .database
  | .demoted actorID =>
    let (db', one) := updateRoomMemberRoleForUser db userID roomID targetID .owner
    if tick.fails then (db, .restoring actorID .database)
    else (db', if one then .succeeded none else .restoring actorID .noRows)
  | .restoring actorID err =>
    -- an error of the statement is ignored
    (if tick.fails then db else (updateRoomMemberRoleForUser db userID roomID actorID .owner).1, .failed err)
  | stage => (db, stage)

/-- `CreateRoomInviteLink`; the token is drawn. -/
def nextCreateLink (userID roomID identityID : UUID) (expiresAfterSeconds maxUses : Int) : Stage → Database × Stage
  | .started => (db, grant tick .identityUser (identityBelongsToUser db identityID userID))
  | .authorized =>
    if tick.fails then (db, .failed .database)
    else (db, if userIsRoomAdmin db userID roomID then .entitled else .failed .inviteAdmins)
  | .entitled =>
    execute tick db (createRoomInviteLink db tick.id.text
      ⟨roomID, identityID, formatTime (linkExpiry tick.now expiresAfterSeconds), maxUses, 0, formatTime tick.now⟩)
      (.succeeded none) .database
  | stage => (db, stage)

def checkLink (now : Nat) (link : InviteLink) : Stage :=
  if parseTime link.expiresAt < now then .failed .expired
  else if 0 < link.maxUses ∧ link.maxUses ≤ link.uses then .failed .used
  else .invited link.roomID

/-- `JoinRoomViaInviteLink`. -/
def nextJoinByLink (userID identityID : UUID) (token : String) : Stage → Database × Stage
  | .started => (db, grant tick .identityUser (identityBelongsToUser db identityID userID))
  | .authorized =>
    match if tick.fails then none else db.inviteLinks.get? token with
    | none => (db, .failed .invite)
    | some link => (db, checkLink tick.now link)
  | .invited roomID => (db, readRoom tick db roomID)
  | .read roomID room => (db, checkJoin tick db .database identityID roomID room)
  | .joining roomID =>
    execute tick db (addRoomMember db tick.now roomID identityID .member) (.counting roomID) .database
  | .counting roomID =>
    -- an error is logged
    (if tick.fails then db else useRoomInviteLink db token, .reloading roomID)
  | stage => (db, nextReload tick db stage)

/-- `CreateRoomJoinRequest`. -/
def nextRequest (userID identityID roomID : UUID) : Stage → Database × Stage
  | .started => (db, grant tick .identityUser (identityBelongsToUser db identityID userID))
  | .authorized =>
    execute tick db (createRoomJoinRequest db tick.now tick.id roomID identityID) (.succeeded none) .database
  | stage => (db, stage)

/-- `ModerateRoomJoinRequest`. The right is asked for with the room, the request is found by its id. -/
def nextModerate (userID roomID reqID : UUID) (status : String) : Stage → Database × Stage
  | .started => (db, grant tick .requestAdmins (userIsRoomAdmin db userID roomID))
  | .authorized =>
    match parseStatus status with
    | none => (db, .failed .status)
    | some status => execute tick db (some (moderateRoomJoinRequest db tick.now reqID status)) (.moderated status) .database
  | .moderated status =>
    match if tick.fails then none else db.joinRequests.get? reqID with
    | none => (db, .failed (if tick.fails then .database else .noRows))
    | some req => (db, if status = .approved then .approved req.identityID else .succeeded none)
  | .approved identityID =>
    execute tick db (addRoomMember db tick.now roomID identityID .member) (.succeeded none) .database
  | stage => (db, stage)

def nextStage : Request → Stage → Database × Stage
  | .createRoom userID req => nextCreate sha256 tick db userID req
  | .updateRoom userID roomID req => nextUpdate tick db userID roomID req
  | .joinRoomByHash userID identityID hash => nextJoinByHash tick db userID identityID hash
  | .leaveRoom userID roomID identityID => nextLeave tick db userID roomID identityID
  | .updateMemberRole userID roomID targetID role => nextUpdateRole tick db userID roomID targetID role
  | .deleteRoom userID roomID => nextDelete tick db userID roomID
  | .kickMember userID roomID targetID => nextKick tick db userID roomID targetID
  | .transferOwnership userID roomID targetID => nextTransfer tick db userID roomID targetID
  | .createRoomInviteLink userID roomID identityID expiresAfterSeconds maxUses =>
    nextCreateLink tick db userID roomID identityID expiresAfterSeconds maxUses
  | .joinRoomViaInviteLink userID identityID token => nextJoinByLink tick db userID identityID token
  | .createRoomJoinRequest userID identityID roomID => nextRequest tick db userID identityID roomID
  | .moderateRoomJoinRequest userID roomID reqID status => nextModerate tick db userID roomID reqID status

def next (call : Call) : Database × Call :=
  ((nextStage sha256 tick db call.request call.stage).1,
    ⟨call.request, (nextStage sha256 tick db call.request call.stage).2⟩)

end Steps

/-- The database and the calls over it. -/
abbrev System := Pool Database Call

abbrev Event := Pool.Event Request Tick

def step (sha256 : String → String) : System → Event → System := Pool.step Call.begin (next sha256)

def fresh (db : Database) : System := ⟨db, Table.empty⟩

/-- A call that runs alone, with what the world provides for its steps. -/
structure Operation where
  request : Request
  ticks : List Tick
  deriving DecidableEq

def perform (sha256 : String → String) (db : Database) (op : Operation) : Database :=
  (Pool.alone (next sha256) db (Call.begin op.request) op.ticks).1

/-! ## Samples -/

def sampleIdentity (userID : UInt8) : Identity := ⟨.ofByte userID, "@a:x", "", "\x7b\x7d", "\x7b\x7d", true, "", ""⟩

def sampleIdentities : Table UUID Identity :=
  ⟨[(.ofByte 1, sampleIdentity 11), (.ofByte 2, sampleIdentity 12), (.ofByte 3, sampleIdentity 13)], by decide⟩

def sampleRoom : Room := ⟨"r", false, .ofByte 1, "", "", "h", false, 0, false, "", ""⟩

def sampleMember (identityID : UInt8) (role : Role) : Member := ⟨.ofByte 7, .ofByte identityID, role, ""⟩

def sampleDatabase (members : List Member) : Database where
  identities := sampleIdentities
  rooms := ⟨[(.ofByte 7, sampleRoom)], by decide⟩
  members := members
  channels := Table.empty
  inviteLinks := Table.empty
  joinRequests := Table.empty

def sampleTick (id : UInt8) : Tick := ⟨62135596800 * second, .ofByte id, false⟩

def sampleOperation (request : Request) (steps : Nat) : Operation := ⟨request, List.replicate steps (sampleTick 8)⟩

def sampleSteps (n : Nat) (request : Request) (steps : Nat) : List Event :=
  .start n request :: List.replicate steps (.advance n (sampleTick 8))

end GaiaCom.Rooms
