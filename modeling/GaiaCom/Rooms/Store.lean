/-
The tables of rooms and the statements over them: sql_store_rooms_public_channels.go with the member query of
sql_store_helpers.go. Foreign keys are checked, and a room that is deleted takes its members, channels, links and
requests with it. Nothing keeps an identity from having several rows in a room.
-/
import GaiaCom.Core.Uuid
import GaiaCom.Lib.Table
import GaiaCom.Store.Column
import Mathlib.Data.List.Sort

namespace GaiaCom.Rooms

open Lib Core GaiaCom.Store

/-! ## Tables -/

/-- The roles the service writes. -/
inductive Role where
  | owner | admin | member
  deriving DecidableEq

/-- `role IN ('admin', 'owner')`. -/
def Role.isAdmin : Role → Bool
  | .owner => true
  | .admin => true
  | .member => false

inductive RequestStatus where
  | pending | approved | rejected
  deriving DecidableEq

/-- A row of identities. -/
structure Identity where
  userID : UUID
  gaiaID : String
  displayName : String
  keys : String
  publicRecord : String
  isActive : Bool
  createdAt : String
  updatedAt : String
  deriving DecidableEq

/-- A row of rooms. -/
structure Room where
  name : String
  isPrivate : Bool
  createdBy : UUID
  description : String
  avatar : String
  secretHash : String
  readOnly : Bool
  slowModeSeconds : Int
  topSecret : Bool
  createdAt : String
  updatedAt : String
  deriving DecidableEq

/-- A row of room_members. -/
structure Member where
  roomID : UUID
  identityID : UUID
  role : Role
  joinedAt : String
  deriving DecidableEq

/-- A row of channels. -/
structure Channel where
  roomID : UUID
  name : String
  createdAt : String
  deriving DecidableEq

/-- A row of room_invite_links. -/
structure InviteLink where
  roomID : UUID
  createdBy : UUID
  expiresAt : String
  maxUses : Int
  uses : Int
  createdAt : String
  deriving DecidableEq

/-- A row of room_join_requests. -/
structure JoinRequest where
  roomID : UUID
  identityID : UUID
  status : RequestStatus
  createdAt : String
  updatedAt : String
  deriving DecidableEq

/-- The rows of room_members are in the order of their ids. -/
structure Database where
  identities : Table UUID Identity
  rooms : Table UUID Room
  members : List Member
  channels : Table UUID Channel
  inviteLinks : Table String InviteLink
  joinRequests : Table UUID JoinRequest

/-! ## Queries -/

section Queries

variable (db : Database)

def membersOf (roomID : UUID) : List Member := db.members.filter fun m => m.roomID = roomID

def isOf (userID identityID : UUID) : Bool := (db.identities.get? identityID).any fun ident => ident.userID = userID

/-- `IdentityBelongsToUser`. -/
def identityBelongsToUser (identityID userID : UUID) : Bool :=
  (db.identities.get? identityID).any fun ident => ident.userID = userID && ident.isActive

/-- `UserIsRoomAdmin`, which is also the condition of the statements `…ForUser`. -/
def userIsRoomAdmin (userID roomID : UUID) : Bool :=
  (membersOf db roomID).any fun m => isOf db userID m.identityID && m.role.isAdmin

/-- A member of a room as it is read, with its identity if there is one. -/
structure RoomMember where
  identityID : UUID
  role : Role
  joinedAt : Nat
  identity : Option Identity
  deriving DecidableEq

/-- `Identity.UserID`, which is nil without an identity. -/
def RoomMember.userID (m : RoomMember) : UUID := (m.identity.map Identity.userID).getD .nil

def findRoomMembers (roomID : UUID) : List RoomMember :=
  ((membersOf db roomID).insertionSort fun a b => a.joinedAt ≤ b.joinedAt).map fun m =>
    ⟨m.identityID, m.role, parseTime m.joinedAt, (db.identities.get? m.identityID).filter fun _ => m.identityID ≠ .nil⟩

/-- The row that `FindRoomBySecretHash` reads first. -/
def findRoomBySecretHash (hash : String) : Option (UUID × Room) := db.rooms.rows.find? fun r => r.2.secretHash = hash

end Queries

/-! ## Statements

`none` is a constraint that fails. -/

section Statements

variable (db : Database) (now : Nat)

/-- The transaction of `CreateRoomWithMembers`. -/
def createRoomWithMembers (roomID : UUID) (room : Room) (members : List (UUID × Role)) : Option Database :=
  if (db.rooms.get? roomID).isSome ∨ ¬ members.all fun m => (db.identities.get? m.1).isSome then none
  else some { db with
    rooms := db.rooms.insertOrIgnore roomID { room with createdAt := formatTime now, updatedAt := formatTime now }
    members := db.members ++ members.map fun m => ⟨roomID, m.1, m.2, formatTime now⟩ }

def createChannel (id : UUID) (roomID : UUID) (name : String) : Option Database :=
  if (db.channels.get? id).isSome ∨ (db.rooms.get? roomID).isNone then none
  else some { db with channels := db.channels.insertOrIgnore id ⟨roomID, name, formatTime now⟩ }

def addRoomMember (roomID identityID : UUID) (role : Role) : Option Database :=
  if (db.rooms.get? roomID).isNone ∨ (db.identities.get? identityID).isNone then none
  else some { db with members := db.members ++ [⟨roomID, identityID, role, formatTime now⟩] }

def removeRoomMember (roomID identityID : UUID) : Database :=
  { db with members := db.members.filter fun m => !(m.roomID = roomID && m.identityID = identityID) }

def setRole (roomID identityID : UUID) (role : Role) (m : Member) : Member :=
  if m.roomID = roomID ∧ m.identityID = identityID then { m with role := role } else m

/-- `UpdateRoomMemberRoleForUser`: what the statement leaves, and whether it changed one row. -/
def updateRoomMemberRoleForUser (userID roomID identityID : UUID) (role : Role) : Database × Bool :=
  if userIsRoomAdmin db userID roomID then
    ({ db with members := db.members.map (setRole roomID identityID role) },
      (membersOf db roomID).countP (fun m => m.identityID = identityID) = 1)
  else (db, false)

/-- The columns that `UpdateRoomSettingsForUser` writes. -/
structure Settings where
  name : String
  description : String
  avatar : String
  isPrivate : Bool
  readOnly : Bool
  slowModeSeconds : Int
  topSecret : Bool
  deriving DecidableEq

def Settings.write (s : Settings) (updatedAt : String) (room : Room) : Room :=
  { room with
    name := s.name, description := s.description, avatar := s.avatar, isPrivate := s.isPrivate
    readOnly := s.readOnly, slowModeSeconds := s.slowModeSeconds, topSecret := s.topSecret, updatedAt := updatedAt }

/-- The statement of `UpdateRoomSettingsForUser`; `none` if it changes no row. -/
def updateRoomSettingsForUser (userID roomID : UUID) (s : Settings) : Option Database :=
  if (db.rooms.get? roomID).isSome ∧ userIsRoomAdmin db userID roomID then
    some { db with rooms := db.rooms.updateWhere (fun id _ => id = roomID) (s.write (formatTime now)) }
  else none

def deleteRoom (roomID : UUID) : Database where
  identities := db.identities
  rooms := db.rooms.deleteWhere fun id _ => id = roomID
  members := db.members.filter fun m => m.roomID ≠ roomID
  channels := db.channels.deleteWhere fun _ c => c.roomID = roomID
  inviteLinks := db.inviteLinks.deleteWhere fun _ l => l.roomID = roomID
  joinRequests := db.joinRequests.deleteWhere fun _ r => r.roomID = roomID

def createRoomInviteLink (token : String) (link : InviteLink) : Option Database :=
  if (db.inviteLinks.get? token).isSome ∨ (db.rooms.get? link.roomID).isNone then none
  else some { db with inviteLinks := db.inviteLinks.insertOrIgnore token link }

def useRoomInviteLink (token : String) : Database :=
  { db with inviteLinks := db.inviteLinks.updateWhere (fun id _ => id = token) fun l => { l with uses := l.uses + 1 } }

def createRoomJoinRequest (id roomID identityID : UUID) : Option Database :=
  if (db.joinRequests.get? id).isSome ∨
      db.joinRequests.rows.any (fun r => r.2.roomID = roomID && r.2.identityID = identityID) ∨
      (db.rooms.get? roomID).isNone ∨ (db.identities.get? identityID).isNone then none
  else some { db with
    joinRequests := db.joinRequests.insertOrIgnore id ⟨roomID, identityID, .pending, formatTime now, formatTime now⟩ }

/-- The update of the store's `ModerateRoomJoinRequest`. -/
def moderateRoomJoinRequest (reqID : UUID) (status : RequestStatus) : Database :=
  { db with joinRequests := db.joinRequests.updateWhere (fun id _ => id = reqID) fun r =>
      { r with status := status, updatedAt := formatTime now } }

end Statements

/-- Every member's room and identity exist. -/
structure Referential (db : Database) : Prop where
  room : ∀ m ∈ db.members, (db.rooms.get? m.roomID).isSome = true
  identity : ∀ m ∈ db.members, (db.identities.get? m.identityID).isSome = true

/-! ## What the statements do to the members of a room -/

section Members

variable {db db' : Database} {now : Nat} {roomID roomID' identityID userID : UUID} {role : Role}

theorem mem_membersOf {m : Member} : m ∈ membersOf db roomID ↔ m ∈ db.members ∧ m.roomID = roomID := by
  simp [membersOf]

theorem membersOf_removeRoomMember (db : Database) (roomID roomID' identityID : UUID) :
    membersOf (removeRoomMember db roomID' identityID) roomID =
      if roomID = roomID' then (membersOf db roomID).filter fun m => m.identityID ≠ identityID
      else membersOf db roomID := by
  unfold membersOf removeRoomMember
  split <;> simp only [List.filter_filter] <;> exact List.filter_congr fun m _ => by grind

@[simp, grind =] theorem setRole_roomID (m : Member) : (setRole roomID identityID role m).roomID = m.roomID := by
  grind [setRole]

@[simp, grind =] theorem setRole_identityID (m : Member) : (setRole roomID identityID role m).identityID = m.identityID := by
  grind [setRole]

theorem setRole_role (m : Member) : (setRole roomID identityID role m).role =
    if m.roomID = roomID ∧ m.identityID = identityID then role else m.role := by
  grind [setRole]

theorem membersOf_map_setRole (db : Database) (roomID roomID' identityID : UUID) (role : Role) :
    membersOf { db with members := db.members.map (setRole roomID' identityID role) } roomID =
      (membersOf db roomID).map (setRole roomID' identityID role) := by
  unfold membersOf
  rw [List.filter_map]
  congr 1
  refine List.filter_congr fun m _ => ?_
  simp

@[grind →]
theorem addRoomMember_some (h : addRoomMember db now roomID identityID role = some db') :
    (db.rooms.get? roomID).isSome = true ∧ (db.identities.get? identityID).isSome = true ∧
      db' = { db with members := db.members ++ [⟨roomID, identityID, role, formatTime now⟩] } := by
  grind [addRoomMember, Option.isNone_iff_eq_none, Option.isSome_iff_ne_none]

theorem membersOf_append (db : Database) (members : List Member) (roomID : UUID) :
    membersOf { db with members := db.members ++ members } roomID =
      membersOf db roomID ++ members.filter fun m => m.roomID = roomID := List.filter_append ..

@[grind →]
theorem createRoomWithMembers_some {room : Room} {members : List (UUID × Role)}
    (h : createRoomWithMembers db now roomID room members = some db') :
    db.rooms.get? roomID = none ∧ (∀ m ∈ members, (db.identities.get? m.1).isSome = true) ∧ db' = { db with
      rooms := db.rooms.insertOrIgnore roomID { room with createdAt := formatTime now, updatedAt := formatTime now }
      members := db.members ++ members.map fun m => ⟨roomID, m.1, m.2, formatTime now⟩ } := by
  grind [createRoomWithMembers, Option.isSome_iff_ne_none]

theorem membersOf_deleteRoom (db : Database) (roomID roomID' : UUID) :
    membersOf (deleteRoom db roomID') roomID = if roomID = roomID' then [] else membersOf db roomID := by
  unfold membersOf deleteRoom
  split
  · simp [List.filter_filter, *]
  simp only [List.filter_filter]
  exact List.filter_congr fun m _ => by grind

@[grind →]
theorem updateRoomSettingsForUser_some {s : Settings} (h : updateRoomSettingsForUser db now userID roomID s = some db') :
    (db.rooms.get? roomID).isSome = true ∧ userIsRoomAdmin db userID roomID = true ∧
      db' = { db with rooms := db.rooms.updateWhere (fun id _ => id = roomID) (s.write (formatTime now)) } := by
  grind [updateRoomSettingsForUser]

@[grind →]
theorem createChannel_some {id : UUID} {name : String} (h : createChannel db now id roomID name = some db') :
    ∃ channels, db' = { db with channels := channels } := by
  grind [createChannel]

@[grind →]
theorem createRoomInviteLink_some {token : String} {link : InviteLink}
    (h : createRoomInviteLink db token link = some db') : db.inviteLinks.get? token = none ∧
      db' = { db with inviteLinks := db.inviteLinks.insertOrIgnore token link } := by
  grind [createRoomInviteLink, Option.isSome_iff_ne_none]

@[grind →]
theorem createRoomJoinRequest_some {id : UUID} (h : createRoomJoinRequest db now id roomID identityID = some db') :
    db.joinRequests.get? id = none ∧ db' = { db with
      joinRequests := db.joinRequests.insertOrIgnore id
        ⟨roomID, identityID, .pending, formatTime now, formatTime now⟩ } := by
  grind [createRoomJoinRequest, Option.isSome_iff_ne_none]

theorem updateRoomMemberRoleForUser_eq (db : Database) (userID roomID identityID : UUID) (role : Role) :
    (updateRoomMemberRoleForUser db userID roomID identityID role).1 =
      if userIsRoomAdmin db userID roomID then { db with members := db.members.map (setRole roomID identityID role) }
      else db := by
  grind [updateRoomMemberRoleForUser]

/-- What does not look at the members is as before. -/
theorem apply_updateRole {α : Type} {f : Database → α} (hf : ∀ db members, f { db with members := members } = f db)
    (db : Database) (userID roomID identityID : UUID) (role : Role) :
    f (updateRoomMemberRoleForUser db userID roomID identityID role).1 = f db := by
  rw [updateRoomMemberRoleForUser_eq, apply_ite f, hf, ite_self]

/-- Foreign keys hold if no room is lost, and every member was there before or refers to what is there. -/
theorem Referential.of_members (h : Referential db) (hidentities : db'.identities = db.identities)
    (hmembers : ∀ m ∈ db'.members,
      ((db.rooms.get? m.roomID).isSome = true → (db'.rooms.get? m.roomID).isSome = true) ∧
        (∃ m' ∈ db.members, m'.roomID = m.roomID ∧ m'.identityID = m.identityID) ∨
      (db'.rooms.get? m.roomID).isSome = true ∧ (db.identities.get? m.identityID).isSome = true) :
    Referential db' := by
  constructor <;> intro m hm
  · grind [h.room]
  · grind [h.identity]

end Members

end GaiaCom.Rooms
