/-
Who gets to see the secret hash of a room, which is what `JoinRoomByHash` takes.

`FindRooms` blanks the hash of the rooms that the user is not in, and `GetChannels` and `GetRoomJoinRequests` do not show
it. `SearchPublicRooms` returns the rows as they are, to everyone. So the queries tell a user nothing about the hashes of
rooms they are not in if and only if these rooms are private (`room_secrets_kept_iff`).
-/
import GaiaCom.Lib.Text
import GaiaCom.Rooms.Service

namespace GaiaCom.Rooms

open Lib Core GaiaCom.Store

/-! ## Queries -/

inductive QueryError where
  | rooms | privateRoom | requestAdmins | noRows | database
  deriving DecidableEq

/-- `ORDER BY created_at DESC` of rooms. -/
def NewerRoom (a b : UUID × Room) : Prop := b.2.createdAt ≤ a.2.createdAt

instance : DecidableRel NewerRoom := fun a b => inferInstanceAs (Decidable (b.2.createdAt ≤ a.2.createdAt))

/-- A pending request with who made it. -/
structure Requested where
  id : UUID
  request : JoinRequest
  userID : UUID
  gaiaID : String
  displayName : String
  createdAt : String
  updatedAt : String
  deriving DecidableEq

section Queries

variable (fails : Nat → Bool) (db : Database) (userID : UUID)

def isJoined (roomID : UUID) : Bool := (membersOf db roomID).any fun m => isOf db userID m.identityID

/-- `findRoomsJoinedByUser`. -/
def findRoomsJoinedByUser (roomIDs : List UUID) : List UUID := roomIDs.filter (isJoined db userID)

def Room.blank (room : Room) : Room := { room with secretHash := "" }

/-- The rooms that `FindRooms` selects. -/
def visibleRooms : List (UUID × Room) :=
  (db.rooms.rows.filter fun r => !r.2.isPrivate || isJoined db userID r.1).insertionSort NewerRoom

def unjoinedRoom (r : UUID × Room) : LoadedRoom := ⟨r.1, r.2.blank, []⟩

def shownRoom (joined : List UUID) (r : UUID × Room) : LoadedRoom :=
  if r.1 ∈ joined then ⟨r.1, r.2, findRoomMembers db r.1⟩ else unjoinedRoom r

/-- `GetRooms`, with the three statements of `FindRooms`. -/
def getRooms : Except QueryError (List LoadedRoom) :=
  if fails 0 then .error .rooms
  else if (visibleRooms db userID).isEmpty then .ok []
  else if fails 1 then .error .rooms
  else
    let joined := findRoomsJoinedByUser db userID ((visibleRooms db userID).map Prod.fst)
    if joined.isEmpty then .ok ((visibleRooms db userID).map unjoinedRoom)
    else if fails 2 then .error .rooms
    else .ok ((visibleRooms db userID).map (shownRoom db joined))

/-- `SearchPublicRooms`. -/
def searchPublicRooms (query : String) : Except QueryError (List LoadedRoom) :=
  if fails 0 then .error .database
  else .ok (((db.rooms.rows.filter fun r => !r.2.isPrivate && (containsLike query.toList r.2.name.toList ||
    containsLike query.toList r.2.description.toList)).insertionSort NewerRoom).map fun r => ⟨r.1, r.2, []⟩)

/-- `FindChannelsByRoom`, the oldest first. -/
def findChannelsByRoom (roomID : UUID) : List (UUID × Channel) :=
  (db.channels.rows.filter fun r => r.2.roomID = roomID).insertionSort fun a b => a.2.createdAt ≤ b.2.createdAt

/-- `GetChannels`. -/
def getChannels (roomID : UUID) : Except QueryError (List (UUID × Channel)) :=
  if fails 0 then .error .database
  else
    match db.rooms.get? roomID with
    | none => .error .noRows
    | some room =>
      if fails 1 then .error .database
      else if room.isPrivate ∧ ¬ (findRoomMembers db roomID).any fun m => m.userID = userID then .error .privateRoom
      else if fails 2 then .error .database
      else .ok (findChannelsByRoom db roomID)

/-- `FindRoomJoinRequests`: the pending requests, the newest first. -/
def findRoomJoinRequests (roomID : UUID) : List Requested :=
  ((db.joinRequests.rows.filter fun r => r.2.roomID = roomID && r.2.status = .pending).insertionSort
    fun a b => b.2.createdAt ≤ a.2.createdAt).filterMap fun r => (db.identities.get? r.2.identityID).map fun ident =>
      ⟨r.1, r.2, ident.userID, ident.gaiaID, ident.displayName, ident.createdAt, ident.updatedAt⟩

/-- `GetRoomJoinRequests`. -/
def getRoomJoinRequests (roomID : UUID) : Except QueryError (List Requested) :=
  if fails 0 then .error .database
  else if ¬ userIsRoomAdmin db userID roomID then .error .requestAdmins
  else if fails 1 then .error .database
  else .ok (findRoomJoinRequests db roomID)

def hide : Database :=
  { db with rooms := db.rooms.updateWhere (fun roomID _ => !isJoined db userID roomID) Room.blank }

end Queries

/-- The user gets the same answers to all queries, whatever statements fail. -/
def SameAnswers (userID : UUID) (db db' : Database) : Prop :=
  ∀ fails, getRooms fails db userID = getRooms fails db' userID ∧
    (∀ query, searchPublicRooms fails db query = searchPublicRooms fails db' query) ∧
    (∀ roomID, getChannels fails db userID roomID = getChannels fails db' userID roomID) ∧
    ∀ roomID, getRoomJoinRequests fails db userID roomID = getRoomJoinRequests fails db' userID roomID

/-! ## What does not depend on hidden hashes -/

section Hide

variable {fails : Nat → Bool} {db db' : Database} {userID roomID : UUID}

def hideRow (db : Database) (userID : UUID) (r : UUID × Room) : UUID × Room :=
  (r.1, if !isJoined db userID r.1 then r.2.blank else r.2)

theorem hideRow_public (r : UUID × Room) : (hideRow db userID r).2.isPrivate = r.2.isPrivate := by
  unfold hideRow
  split
  · rfl
  rfl

theorem hideRow_createdAt (r : UUID × Room) : (hideRow db userID r).2.createdAt = r.2.createdAt := by
  unfold hideRow
  split
  · rfl
  rfl

theorem unjoinedRoom_hideRow (r : UUID × Room) : unjoinedRoom (hideRow db userID r) = unjoinedRoom r := by
  unfold hideRow
  split
  · rfl
  rfl

theorem shownRoom_hideRow (roomIDs : List UUID) (r : UUID × Room) :
    shownRoom (hide db userID) (findRoomsJoinedByUser db userID roomIDs) (hideRow db userID r) =
      shownRoom db (findRoomsJoinedByUser db userID roomIDs) r := by
  have hid : (hideRow db userID r).1 = r.1 := rfl
  unfold shownRoom
  rw [hid, unjoinedRoom_hideRow]
  split
  · rename_i hmem
    have hjoined : isJoined db userID r.1 = true := (List.mem_filter.1 hmem).2
    rw [hideRow, hjoined]
    rfl
  · rfl

theorem visibleRooms_hide (db : Database) (userID : UUID) :
    visibleRooms (hide db userID) userID = (visibleRooms db userID).map (hideRow db userID) := by
  have hrows : (hide db userID).rooms.rows = db.rooms.rows.map (hideRow db userID) := rfl
  have hfilter : ((fun r => !r.2.isPrivate || isJoined (hide db userID) userID r.1) ∘ hideRow db userID) =
      fun r => !r.2.isPrivate || isJoined db userID r.1 := by
    funext r
    rw [Function.comp_apply, hideRow_public]
    rfl
  unfold visibleRooms
  rw [hrows, List.filter_map, hfilter]
  refine (List.map_insertionSort _ _ _ _ fun a _ b _ => ?_).symm
  grind [NewerRoom, hideRow_createdAt]

theorem getRooms_hide (fails : Nat → Bool) (db : Database) (userID : UUID) :
    getRooms fails (hide db userID) userID = getRooms fails db userID := by
  have hids : ((visibleRooms db userID).map (hideRow db userID)).map Prod.fst = (visibleRooms db userID).map Prod.fst := by
    rw [List.map_map]
    rfl
  have hjoined : findRoomsJoinedByUser (hide db userID) userID = findRoomsJoinedByUser db userID := rfl
  have hunjoined : ((visibleRooms db userID).map (hideRow db userID)).map unjoinedRoom =
      (visibleRooms db userID).map unjoinedRoom := by
    grind [List.map_congr_left, unjoinedRoom_hideRow]
  have hshown : ∀ roomIDs, ((visibleRooms db userID).map (hideRow db userID)).map
      (shownRoom (hide db userID) (findRoomsJoinedByUser db userID roomIDs)) =
        (visibleRooms db userID).map (shownRoom db (findRoomsJoinedByUser db userID roomIDs)) := by
    grind [List.map_congr_left, shownRoom_hideRow]
  simp only [getRooms, visibleRooms_hide, hids, hjoined, List.isEmpty_map, hunjoined, hshown]

theorem get?_hide (db : Database) (userID roomID : UUID) : (hide db userID).rooms.get? roomID =
    (db.rooms.get? roomID).map fun room => (hideRow db userID (roomID, room)).2 := Table.get?_updateWhere ..

theorem getChannels_hide (fails : Nat → Bool) (db : Database) (userID roomID : UUID) :
    getChannels fails (hide db userID) userID roomID = getChannels fails db userID roomID := by
  have hmembers : findRoomMembers (hide db userID) = findRoomMembers db := rfl
  have hchannels : findChannelsByRoom (hide db userID) = findChannelsByRoom db := rfl
  unfold getChannels
  rw [get?_hide, hmembers, hchannels]
  cases db.rooms.get? roomID with
  | none => rfl
  | some room => simp only [Option.map_some, hideRow_public]

theorem getRoomJoinRequests_hide (fails : Nat → Bool) (db : Database) (userID roomID : UUID) :
    getRoomJoinRequests fails (hide db userID) userID roomID = getRoomJoinRequests fails db userID roomID := rfl

theorem publicRooms_restore (userID : UUID) (hash : UUID → String)
    (hhash : ∀ id room, db.rooms.get? id = some room → room.isPrivate = false → hash id = room.secretHash) :
    (db.rooms.rows.filter fun r => !r.2.isPrivate) =
      ((hide db userID).rooms.rows.filter fun r => !r.2.isPrivate).map fun r =>
        (r.1, { r.2 with secretHash := hash r.1 }) := by
  have hrows : (hide db userID).rooms.rows = db.rooms.rows.map (hideRow db userID) := rfl
  have hfilter : ((fun r => !r.2.isPrivate) ∘ hideRow db userID) = fun r : UUID × Room => !r.2.isPrivate := by
    funext r
    rw [Function.comp_apply, hideRow_public]
  rw [hrows, List.filter_map, hfilter, List.map_map]
  refine Eq.symm ((List.map_congr_left fun r hr => ?_).trans (List.map_id _))
  obtain ⟨hmem, hpublic⟩ := List.mem_filter.1 hr
  have hsame := hhash r.1 r.2 (Table.get?_eq_some.2 hmem) (by simpa using hpublic)
  simp only [Function.comp_apply, hsame, hideRow]
  split
  · rfl
  rfl

theorem searchPublicRooms_eq (fails : Nat → Bool)
    (h : (db.rooms.rows.filter fun r => !r.2.isPrivate) = db'.rooms.rows.filter fun r => !r.2.isPrivate)
    (query : String) : searchPublicRooms fails db query = searchPublicRooms fails db' query := by
  have hsplit : ∀ db : Database, (db.rooms.rows.filter fun r => !r.2.isPrivate &&
      (containsLike query.toList r.2.name.toList || containsLike query.toList r.2.description.toList)) =
        (db.rooms.rows.filter fun r => !r.2.isPrivate).filter fun r =>
          containsLike query.toList r.2.name.toList || containsLike query.toList r.2.description.toList := by
    grind [List.filter_filter]
  unfold searchPublicRooms
  rw [hsplit, hsplit, h]

theorem mem_searchPublicRooms {id : UUID} {room : Room} {rooms : List LoadedRoom}
    (h : searchPublicRooms (fun _ => false) db "" = .ok rooms) :
    ⟨id, room, []⟩ ∈ rooms ↔ db.rooms.get? id = some room ∧ room.isPrivate = false := by
  obtain rfl := Except.ok.inj h
  simp [List.mem_insertionSort, containsLike_nil, Table.get?_eq_some]

end Hide

/-- If two databases differ only in the hashes of rooms that the user is not in, then the user gets the same answers to
all queries if and only if the public rooms have the same hashes. -/
theorem room_secrets_kept_iff (userID : UUID) (db db' : Database) (hdiffer : hide db userID = hide db' userID) :
    SameAnswers userID db db' ↔ ∀ id room room', db.rooms.get? id = some room → db'.rooms.get? id = some room' →
      room.isPrivate = false → room.secretHash = room'.secretHash := by
  constructor
  · intro hsame id room room' hroom hroom' hpublic
    have hsearch := (hsame fun _ => false).2.1 ""
    obtain ⟨rooms, hrooms⟩ : ∃ rooms, searchPublicRooms (fun _ => false) db "" = .ok rooms := ⟨_, rfl⟩
    have hfound := (mem_searchPublicRooms hrooms).2 ⟨hroom, hpublic⟩
    obtain ⟨hsame', -⟩ := (mem_searchPublicRooms (hsearch.symm.trans hrooms)).1 hfound
    rw [Option.some.inj (hsame'.symm.trans hroom')]
  · intro hpublic fails
    refine ⟨?_, ?_, fun roomID => ?_, fun roomID => ?_⟩
    · rw [← getRooms_hide, hdiffer, getRooms_hide]
    · refine searchPublicRooms_eq fails ?_
      have hrow : ∀ id, (db.rooms.get? id).map (fun room => (hideRow db userID (id, room)).2) =
          (db'.rooms.get? id).map fun room => (hideRow db' userID (id, room)).2 := by
        intro id
        rw [← get?_hide, ← get?_hide, hdiffer]
      have hhash' : ∀ id room', db'.rooms.get? id = some room' → room'.isPrivate = false →
          ((db.rooms.get? id).map Room.secretHash).getD "" = room'.secretHash := by
        intro id room' hroom' hpub
        have hid := hrow id
        rw [hroom', Option.map_some] at hid
        obtain ⟨room, hroom, hhidden⟩ := Option.map_eq_some_iff.1 hid
        have hprivate := congrArg Room.isPrivate hhidden
        rw [hideRow_public, hideRow_public] at hprivate
        rw [hroom]
        exact hpublic id room room' hroom hroom' (hprivate.trans hpub)
      have hhash : ∀ id room, db.rooms.get? id = some room → room.isPrivate = false →
          ((db.rooms.get? id).map Room.secretHash).getD "" = room.secretHash := by
        intro id room hroom _
        rw [hroom]
        rfl
      rw [publicRooms_restore userID _ hhash, publicRooms_restore userID _ hhash', hdiffer]
    · rw [← getChannels_hide, hdiffer, getChannels_hide]
    · rw [← getRoomJoinRequests_hide, hdiffer, getRoomJoinRequests_hide]

def sampleSecret (isPrivate : Bool) (hash : String) : Database :=
  { sampleDatabase [sampleMember 1 .owner] with
    rooms := ⟨[(.ofByte 7, { sampleRoom with isPrivate := isPrivate, secretHash := hash })], List.nodup_singleton _⟩ }

/-- The third user learns nothing about the hash of a private room. -/
theorem private_secret_kept : hide (sampleSecret true "h") (.ofByte 13) = hide (sampleSecret true "g") (.ofByte 13) ∧
    SameAnswers (.ofByte 13) (sampleSecret true "h") (sampleSecret true "g") := by
  have hdiffer : hide (sampleSecret true "h") (.ofByte 13) = hide (sampleSecret true "g") (.ofByte 13) := rfl
  refine ⟨hdiffer, (room_secrets_kept_iff _ _ _ hdiffer).2 fun id room room' hroom _ hpublic => ?_⟩
  obtain ⟨-, rfl⟩ : (id, room) = _ := List.mem_singleton.1 (Table.get?_eq_some.1 hroom)
  cases hpublic

/-- The third user, who is not in the room, finds the hash of a public room and joins the room with it. -/
theorem public_secret_found :
    hide (sampleSecret false "h") (.ofByte 13) = hide (sampleSecret false "g") (.ofByte 13) ∧
      searchPublicRooms (fun _ => false) (sampleSecret false "h") "" ≠
        searchPublicRooms (fun _ => false) (sampleSecret false "g") "" ∧
      (searchPublicRooms (fun _ => false) (sampleSecret false "h") "").toOption.map (List.map fun r => r.room.secretHash) =
        some ["h"] ∧
      isJoined (sampleSecret false "h") (.ofByte 13) (.ofByte 7) = false ∧
      isJoined (perform id (sampleSecret false "h")
        (sampleOperation (.joinRoomByHash (.ofByte 13) (.ofByte 3) "h") 4)) (.ofByte 13) (.ofByte 7) = true := by
  refine ⟨rfl, (and_iff_right_of_imp ?_).2 (by decide +kernel)⟩
  rintro ⟨hfirst, -⟩ heq
  have hsecond : (searchPublicRooms (fun _ => false) (sampleSecret false "g") "").toOption.map
      (List.map fun r => r.room.secretHash) = some ["g"] := by decide +kernel
  rw [heq, hsecond] at hfirst
  exact absurd hfirst (by decide)

end GaiaCom.Rooms
