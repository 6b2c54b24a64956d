/-
sql_store_auth.go: `DeleteUserAccount`, one transaction that deletes a user with the messages of the user's identities and
the rooms these identities created. Foreign keys carry the deletion on: from users to identities, from rooms, identities and
messages to the rows that refer to them. The tables left out refer to these and are referred to by none of them, so that no
deletion comes back from there.

Rooms go by who created them, not by who owns them now, which is the same only while ownership has not moved.
-/
import GaiaCom.Rooms.Service

namespace GaiaCom.Auth.Deletion

open Lib Core GaiaCom.Store

/-! ## Tables -/

/-- A row of message_envelopes. -/
structure Envelope where
  sender : String
  recipient : String
  payload : String
  deriving DecidableEq

/-- A row of inboxes. -/
structure Inbox where
  identityID : UUID
  messageID : UUID
  deriving DecidableEq

/-- The tables; of users the names, of reports the messages. -/
structure Database where
  users : Table UUID String
  rooms : Rooms.Database
  envelopes : Table UUID Envelope
  inboxes : List Inbox
  reports : List String

/-! ## Statements -/

section Statements

variable (db : Database)

/-- `DELETE FROM rooms` with the rows that refer to them. -/
def deleteRooms (isGone : Rooms.Room → Bool) : Database :=
  let gone := fun roomID => (db.rooms.rooms.get? roomID).any isGone
  { db with
    rooms :=
      { db.rooms with
        rooms := db.rooms.rooms.deleteWhere fun _ room => isGone room
        members := db.rooms.members.filter fun m => !gone m.roomID
        channels := db.rooms.channels.deleteWhere fun _ c => gone c.roomID
        inviteLinks := db.rooms.inviteLinks.deleteWhere fun _ l => gone l.roomID
        joinRequests := db.rooms.joinRequests.deleteWhere fun _ r => gone r.roomID } }

/-- `DELETE FROM message_envelopes` with the rows that refer to them. -/
def deleteEnvelopes (messageIDs : List UUID) : Database :=
  { db with
    envelopes := db.envelopes.deleteWhere fun id _ => id ∈ messageIDs
    inboxes := db.inboxes.filter fun i => i.messageID ∉ messageIDs }

/-- `DELETE FROM reports`. -/
def deleteReports (messageIDs : List UUID) : Database :=
  { db with reports := db.reports.filter fun messageID => messageID ∉ messageIDs.map UUID.text }

/-- `DELETE FROM users` with the identities and the rows that refer to these. -/
def deleteUser (userID : UUID) : Database :=
  let gone := fun identityID => Rooms.isOf db.rooms userID identityID
  { db with
    users := db.users.deleteWhere fun id _ => id = userID
    rooms :=
      { db.rooms with
        identities := db.rooms.identities.deleteWhere fun _ ident => ident.userID = userID
        members := db.rooms.members.filter fun m => !gone m.identityID
        joinRequests := db.rooms.joinRequests.deleteWhere fun _ r => gone r.identityID }
    inboxes := db.inboxes.filter fun i => !gone i.identityID }

end Statements

/-! ## The transaction -/

section Transaction

variable (db : Database) (userID : UUID)

def identitiesOf : List (UUID × Rooms.Identity) := db.rooms.identities.rows.filter fun r => r.2.userID = userID

def identityIDsOf : List UUID := (identitiesOf db userID).map Prod.fst

def gaiaIDsOf : List String := (identitiesOf db userID).map fun r => r.2.gaiaID

def messagesOf (gaiaIDs : List String) : List UUID :=
  (db.envelopes.rows.filter fun r => r.2.sender ∈ gaiaIDs || r.2.recipient ∈ gaiaIDs).map Prod.fst

def deleteMessages (gaiaIDs : List String) : Database :=
  let messageIDs := if gaiaIDs = [] then [] else messagesOf db gaiaIDs
  if messageIDs = [] then db else deleteEnvelopes (deleteReports db messageIDs) messageIDs

def deleteCreatedRooms (identityIDs : List UUID) : Database :=
  if identityIDs = [] then db else deleteRooms db fun room => room.createdBy ∈ identityIDs

/-- `DeleteUserAccount`; `none` is an error, after which the transaction is rolled back, and `fails` says that one of the
statements fails. -/
def deleteUserAccount (fails : Bool) : Option Database :=
  if userID = .nil || fails then none
  else
    let db' := deleteCreatedRooms (deleteMessages db (gaiaIDsOf db userID)) (identityIDsOf db userID)
    if (db'.users.get? userID).isSome then some (deleteUser db' userID) else none

def afterDeletion (fails : Bool) : Database := (deleteUserAccount db userID fails).getD db

end Transaction

/-! ## What is deleted -/

def isParty (db : Database) (userID : UUID) (e : Envelope) : Bool :=
  e.sender ∈ gaiaIDsOf db userID || e.recipient ∈ gaiaIDsOf db userID

/-- What a deletion that succeeds leaves. -/
structure Deleted (db db' : Database) (userID : UUID) : Prop where
  existed : (db.users.get? userID).isSome = true
  users : ∀ id, db'.users.get? id = (db.users.get? id).filter fun _ => id ≠ userID
  identities : ∀ id, db'.rooms.identities.get? id =
    (db.rooms.identities.get? id).filter fun ident => ident.userID ≠ userID
  rooms : ∀ id, db'.rooms.rooms.get? id =
    (db.rooms.rooms.get? id).filter fun room => !Rooms.isOf db.rooms userID room.createdBy
  members : db'.rooms.members = db.rooms.members.filter fun m =>
    !Rooms.isOf db.rooms userID m.identityID &&
      !((db.rooms.rooms.get? m.roomID).any fun room => Rooms.isOf db.rooms userID room.createdBy)
  envelopes : ∀ id, db'.envelopes.get? id = (db.envelopes.get? id).filter fun e => !isParty db userID e

section Deleted

variable {db db' : Database} {userID : UUID} {fails : Bool}

theorem mem_identityIDsOf (db : Database) (userID identityID : UUID) :
    decide (identityID ∈ identityIDsOf db userID) = Rooms.isOf db.rooms userID identityID := by
  rw [Bool.eq_iff_iff, decide_eq_true_eq]
  simp only [identityIDsOf, identitiesOf, Rooms.isOf, List.mem_map, List.mem_filter, Prod.exists, exists_and_right,
    exists_eq_right, Option.any_eq_true, decide_eq_true_eq, Table.get?_eq_some]

theorem mem_messagesOf {gaiaIDs : List String} {id : UUID} {e : Envelope} (h : db.envelopes.get? id = some e) :
    decide (id ∈ messagesOf db gaiaIDs) = (decide (e.sender ∈ gaiaIDs) || decide (e.recipient ∈ gaiaIDs)) := by
  rw [Bool.eq_iff_iff, decide_eq_true_eq]
  simp only [messagesOf, List.mem_map, List.mem_filter, Prod.exists, exists_and_right, exists_eq_right]
  constructor
  · rintro ⟨e', he', hparty⟩
    rw [Option.some.inj (h.symm.trans (Table.get?_eq_some.2 he'))]
    exact hparty
  grind

theorem messagesOf_nil (db : Database) : messagesOf db [] = [] := by simp [messagesOf]

theorem deleteMessages_eq (db : Database) (gaiaIDs : List String) :
    (deleteMessages db gaiaIDs).users = db.users ∧ (deleteMessages db gaiaIDs).rooms = db.rooms ∧
      (deleteMessages db gaiaIDs).envelopes = db.envelopes.deleteWhere fun id _ => id ∈ messagesOf db gaiaIDs := by
  have hids : (if gaiaIDs = [] then [] else messagesOf db gaiaIDs) = messagesOf db gaiaIDs := by
    grind [messagesOf_nil]
  unfold deleteMessages
  rw [hids]
  dsimp only
  split
  · rename_i hnone
    refine ⟨rfl, rfl, (Table.deleteWhere_eq_self fun id e _ => ?_).symm⟩
    simp [hnone]
  · exact ⟨rfl, rfl, rfl⟩

theorem deleteCreatedRooms_eq (db : Database) (identityIDs : List UUID) :
    deleteCreatedRooms db identityIDs = deleteRooms db fun room => room.createdBy ∈ identityIDs := by
  unfold deleteCreatedRooms
  split
  · rename_i hnone
    subst hnone
    have hany : ∀ o : Option Rooms.Room, (o.any fun _ => false) = false := fun o => by cases o <;> rfl
    simp only [deleteRooms, List.not_mem_nil, decide_false, hany, Bool.not_false, List.filter_true]
    rw [Table.deleteWhere_eq_self fun _ _ _ => rfl, Table.deleteWhere_eq_self fun _ _ _ => rfl,
      Table.deleteWhere_eq_self fun _ _ _ => rfl, Table.deleteWhere_eq_self fun _ _ _ => rfl]
  · rfl

@[grind →]
theorem deleted_of_some (h : deleteUserAccount db userID fails = some db') : Deleted db db' userID := by
  obtain ⟨husers, hrooms, henvelopes⟩ := deleteMessages_eq db (gaiaIDsOf db userID)
  unfold deleteUserAccount at h
  rw [deleteCreatedRooms_eq] at h
  split at h
  · cases h
  dsimp only at h
  split at h
  · rename_i hexists
    have hexisted : (db.users.get? userID).isSome = true := by simpa [deleteRooms, husers] using hexists
    rw [← Option.some.inj h]
    simp only [deleteUser, deleteRooms, husers, hrooms, henvelopes, mem_identityIDsOf]
    refine ⟨hexisted, fun id => ?_, fun id => ?_, fun id => ?_, ?_, fun id => ?_⟩
    · simp only [Table.get?_deleteWhere, decide_not]
    · simp only [Table.get?_deleteWhere, decide_not]
    · simp only [Table.get?_deleteWhere]
    · simp only [List.filter_filter, Rooms.isOf]
    · simp only [Table.get?_deleteWhere]
      cases he : db.envelopes.get? id with
      | none => rfl
      | some e => simp only [Option.filter_some, mem_messagesOf he, isParty]
  · cases h

end Deleted

/-! ## Current ownership -/

def soleOwner (db : Database) (roomID : UUID) : Option UUID :=
  match (Rooms.membersOf db.rooms roomID).filter fun m => m.role = .owner with
  | [m] => some m.identityID
  | _ => none

/-- Nothing has changed; or the user is gone with the user's identities and no other user, the rooms that have one owner are
gone exactly if the owner is the user, and messages to which the user is no party are there. -/
def WithinAccount (db db' : Database) (userID : UUID) : Prop :=
  db' = db ∨
    (∀ id, db'.users.get? id = (db.users.get? id).filter fun _ => id ≠ userID) ∧
    (∀ id, db'.rooms.identities.get? id = (db.rooms.identities.get? id).filter fun ident => ident.userID ≠ userID) ∧
    (∀ roomID room owner, db.rooms.rooms.get? roomID = some room → soleOwner db roomID = some owner →
      db'.rooms.rooms.get? roomID = if Rooms.isOf db.rooms userID owner then none else some room) ∧
    ∀ id e, db.envelopes.get? id = some e → isParty db userID e = false → db'.envelopes.get? id = some e

/-- Deletion stays within the account exactly if it fails or every room with one owner was created by an identity of the
user if and only if the owner is one. -/
theorem deletion_within_account_iff (db : Database) (userID : UUID) (fails : Bool) :
    WithinAccount db (afterDeletion db userID fails) userID ↔
      deleteUserAccount db userID fails = none ∨
        ∀ roomID room owner, db.rooms.rooms.get? roomID = some room → soleOwner db roomID = some owner →
          Rooms.isOf db.rooms userID room.createdBy = Rooms.isOf db.rooms userID owner := by
  unfold afterDeletion
  cases hresult : deleteUserAccount db userID fails with
  | none =>
    grind [WithinAccount]
  | some db' =>
    rw [Option.getD_some]
    have hdeleted := deleted_of_some hresult
    constructor
    · rintro (hsame | ⟨-, -, hrooms, -⟩)
      · -- the user was there and is gone
        grind [hdeleted.users, Option.isSome_iff_exists, hdeleted.existed]
      · refine .inr fun roomID room owner hroom howner => ?_
        have hleft := hrooms roomID room owner hroom howner
        rw [hdeleted.rooms, hroom, Option.filter_some] at hleft
        revert hleft
        cases Rooms.isOf db.rooms userID room.createdBy <;> cases Rooms.isOf db.rooms userID owner <;> simp
    · rintro (hnone | hsame)
      · cases hnone
      · refine .inr ⟨hdeleted.users, hdeleted.identities, fun roomID room owner hroom howner => ?_, fun id e he hparty => ?_⟩
        · rw [hdeleted.rooms, hroom, Option.filter_some, hsame roomID room owner hroom howner]
          cases Rooms.isOf db.rooms userID owner <;> rfl
        grind [hdeleted.envelopes]

/-! ## A room that was handed over -/

def sampleIdentity (userID : UInt8) (gaiaID : String) : Rooms.Identity :=
  { Rooms.sampleIdentity userID with gaiaID := gaiaID }

def sampleRooms : Rooms.Database :=
  { Rooms.sampleDatabase [Rooms.sampleMember 1 .owner, Rooms.sampleMember 2 .member] with
    identities := ⟨[(.ofByte 1, sampleIdentity 11 "@anna:x"), (.ofByte 2, sampleIdentity 12 "@bob:x")], by decide⟩ }

def sampleHandedOver : Database where
  users := ⟨[(.ofByte 11, "anna"), (.ofByte 12, "bob")], by decide⟩
  rooms := (exec (Rooms.step id) (Rooms.fresh sampleRooms)
    (Rooms.sampleSteps 1 (.transferOwnership (.ofByte 11) (.ofByte 7) (.ofByte 2)) 4)).shared
  envelopes := Table.empty
  inboxes := []
  reports := []

/-- Bob is the only owner of the room, and it goes with Anna's account. -/
theorem room_deleted_with_creator :
    soleOwner sampleHandedOver (.ofByte 7) = some (.ofByte 2) ∧
      Rooms.isOf sampleHandedOver.rooms (.ofByte 11) (.ofByte 2) = false ∧
      (sampleHandedOver.rooms.rooms.get? (.ofByte 7)).isSome = true ∧
      ((afterDeletion sampleHandedOver (.ofByte 11) false).rooms.rooms.get? (.ofByte 7)).isNone = true ∧
      (afterDeletion sampleHandedOver (.ofByte 11) false).users.rows = [(.ofByte 12, "bob")] := by
  decide +kernel

end GaiaCom.Auth.Deletion
