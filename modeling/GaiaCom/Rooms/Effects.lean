/-
What one step of a room call does to the database: at most the statement of its stage (`next_effect`). What it does to
the members of a room is read off from that (`Effect.room`); identities never change, and foreign keys hold.
-/
import GaiaCom.Rooms.Service

namespace GaiaCom.Rooms

open Lib Core GaiaCom.Store

/-! ## What a step does -/

/-- What the step of a call may do to the database: nothing, or the statement of its stage. -/
inductive Effect (tick : Tick) (db : Database) : Call → Database → Prop where
  | none (call : Call) : Effect tick db call db
  | createRoom {userID : UUID} {req : CreateRoomRequest} {room : Room} {ids : List UUID} {db' : Database}
      (hids : req.memberIDs.mapM parse = some ids) (hroom : room.topSecret = false)
      (h : createRoomWithMembers db tick.now tick.id room (newMembers (ids.headD .nil) ids) = some db') :
      Effect tick db ⟨.createRoom userID req, .authorized⟩ db'
  | createChannel {userID roomID : UUID} {req : CreateRoomRequest} {db' : Database}
      (h : createChannel db tick.now tick.id roomID "general" = some db') :
      Effect tick db ⟨.createRoom userID req, .created roomID⟩ db'
  | updateRoom {userID roomID : UUID} {req : UpdateRoomRequest} {settings : Settings} {db' : Database}
      (h : updateRoomSettingsForUser db tick.now userID roomID settings = some db') :
      Effect tick db ⟨.updateRoom userID roomID req, .updating settings⟩ db'
  | joinByHash {userID identityID roomID : UUID} {hash : String} {db' : Database}
      (h : addRoomMember db tick.now roomID identityID .member = some db') :
      Effect tick db ⟨.joinRoomByHash userID identityID hash, .joining roomID⟩ db'
  | leave {userID roomID identityID : UUID} :
      Effect tick db ⟨.leaveRoom userID roomID identityID, .authorized⟩ (removeRoomMember db roomID identityID)
  | updateRole {userID roomID targetID : UUID} {text : String} {role : Role} (hrole : parseRole text = some role) :
      Effect tick db ⟨.updateMemberRole userID roomID targetID text, .started⟩
        (updateRoomMemberRoleForUser db userID roomID targetID role).1
  | deleteRoom {userID roomID : UUID} : Effect tick db ⟨.deleteRoom userID roomID, .authorized⟩ (deleteRoom db roomID)
  | kick {userID roomID targetID : UUID} :
      Effect tick db ⟨.kickMember userID roomID targetID, .kicking⟩ (removeRoomMember db roomID targetID)
  | demote {userID roomID targetID actorID : UUID} :
      Effect tick db ⟨.transferOwnership userID roomID targetID, .transferring actorID⟩
        (updateRoomMemberRoleForUser db userID roomID actorID .admin).1
  | promote {userID roomID targetID actorID : UUID} :
      Effect tick db ⟨.transferOwnership userID roomID targetID, .demoted actorID⟩
        (updateRoomMemberRoleForUser db userID roomID targetID .owner).1
  | restore {userID roomID targetID actorID : UUID} {err : RoomError} :
      Effect tick db ⟨.transferOwnership userID roomID targetID, .restoring actorID err⟩
        (updateRoomMemberRoleForUser db userID roomID actorID .owner).1
  | createLink {userID roomID identityID : UUID} {expiresAfterSeconds maxUses : Int} {link : InviteLink}
      {db' : Database} (h : createRoomInviteLink db tick.id.text link = some db') :
      Effect tick db ⟨.createRoomInviteLink userID roomID identityID expiresAfterSeconds maxUses, .entitled⟩ db'
  | joinByLink {userID identityID roomID : UUID} {token : String} {db' : Database}
      (h : addRoomMember db tick.now roomID identityID .member = some db') :
      Effect tick db ⟨.joinRoomViaInviteLink userID identityID token, .joining roomID⟩ db'
  | count {userID identityID roomID : UUID} {token : String} :
      Effect tick db ⟨.joinRoomViaInviteLink userID identityID token, .counting roomID⟩ (useRoomInviteLink db token)
  | request {userID identityID roomID : UUID} {db' : Database}
      (h : createRoomJoinRequest db tick.now tick.id roomID identityID = some db') :
      Effect tick db ⟨.createRoomJoinRequest userID identityID roomID, .authorized⟩ db'
  | moderate {userID roomID reqID : UUID} {text : String} {status : RequestStatus}
      (hstatus : parseStatus text = some status) :
      Effect tick db ⟨.moderateRoomJoinRequest userID roomID reqID text, .authorized⟩
        (moderateRoomJoinRequest db tick.now reqID status)
  | approve {userID roomID reqID identityID : UUID} {text : String} {db' : Database}
      (h : addRoomMember db tick.now roomID identityID .member = some db') :
      Effect tick db ⟨.moderateRoomJoinRequest userID roomID reqID text, .approved identityID⟩ db'

section Effects

variable {sha256 : String → String} {tick : Tick} {db : Database} {call : Call}

theorem effect_execute {result : Option Database} {ok : Stage} {err : RoomError}
    (h : ∀ db', result = some db' → Effect tick db call db') : Effect tick db call (execute tick db result ok err).1 := by
  unfold execute
  split
  · exact .none call
  rename_i db' hdb
  split at hdb
  · cases hdb
  exact h db' hdb

/-- The methods that reload the room only read from then on. -/
theorem nextReload_cases (stage : Stage) :
    nextReload tick db stage = stage ∨ (∃ err, nextReload tick db stage = .failed err) ∨
      (∃ roomID room, nextReload tick db stage = .reloaded roomID room) ∨
      ∃ result, nextReload tick db stage = .succeeded result := by
  fun_cases nextReload <;> simp

theorem effect_create (userID : UUID) (req : CreateRoomRequest) (stage : Stage) :
    Effect tick db ⟨.createRoom userID req, stage⟩ (nextCreate sha256 tick db userID req stage).1 := by
  cases stage with
  | authorized =>
    simp only [nextCreate]
    split
    · exact .none _
    rename_i ids hids
    exact effect_execute fun db' h => .createRoom hids rfl h
  | created roomID => cases h : createChannel db tick.now tick.id roomID "general" <;> grind [nextCreate, Effect]
  | _ => grind [nextCreate, Effect]

theorem next_effect (sha256 : String → String) (tick : Tick) (db : Database) (call : Call) :
    Effect tick db call (next sha256 tick db call).1 := by
  obtain ⟨request, stage⟩ := call
  cases request with
  | createRoom userID req => exact effect_create userID req stage
  | updateRoom =>
    simp only [next, nextStage]
    fun_cases nextUpdate <;> grind [execute, Effect]
  | joinRoomByHash =>
    simp only [next, nextStage]
    fun_cases nextJoinByHash <;> grind [execute, Effect]
  | kickMember =>
    simp only [next, nextStage]
    fun_cases nextKick <;> grind [execute, Effect]
  | transferOwnership =>
    simp only [next, nextStage]
    fun_cases nextTransfer <;> grind [execute, Effect]
  | createRoomInviteLink =>
    simp only [next, nextStage]
    fun_cases nextCreateLink <;> grind [execute, Effect]
  | joinRoomViaInviteLink =>
    simp only [next, nextStage]
    fun_cases nextJoinByLink <;> grind [execute, Effect]
  | moderateRoomJoinRequest =>
    simp only [next, nextStage]
    fun_cases nextModerate <;> grind [execute, Effect]
  | _ =>
    simp only [next, nextStage]
    cases stage <;> grind [nextLeave, nextUpdateRole, nextDelete, nextRequest, execute, Effect]

theorem Effect.identities {db' : Database} (h : Effect tick db call db') : db'.identities = db.identities := by
  cases h <;> grind [updateRoomMemberRoleForUser_eq, removeRoomMember, Rooms.deleteRoom, useRoomInviteLink,
    moderateRoomJoinRequest]

def Call.creates : Call → Option (List UUID)
  | ⟨.createRoom _ req, .authorized⟩ => req.memberIDs.mapM parse
  | _ => none

def Call.adds : Call → Option (UUID × UUID)
  | ⟨.joinRoomByHash _ identityID _, .joining roomID⟩ => some (roomID, identityID)
  | ⟨.joinRoomViaInviteLink _ identityID _, .joining roomID⟩ => some (roomID, identityID)
  | ⟨.moderateRoomJoinRequest _ roomID _ _, .approved identityID⟩ => some (roomID, identityID)
  | _ => none

def Call.removes : Call → Option (UUID × UUID)
  | ⟨.leaveRoom _ roomID identityID, .authorized⟩ => some (roomID, identityID)
  | ⟨.kickMember _ roomID targetID, .kicking⟩ => some (roomID, targetID)
  | _ => none

/-- A change of a role. -/
structure RoleChange where
  userID : UUID
  roomID : UUID
  identityID : UUID
  role : Role
  deriving DecidableEq

def Call.setsRole : Call → Option RoleChange
  | ⟨.updateMemberRole userID roomID targetID text, .started⟩ =>
    (parseRole text).map fun role => ⟨userID, roomID, targetID, role⟩
  | ⟨.transferOwnership userID roomID _, .transferring actorID⟩ => some ⟨userID, roomID, actorID, .admin⟩
  | ⟨.transferOwnership userID roomID targetID, .demoted _⟩ => some ⟨userID, roomID, targetID, .owner⟩
  | ⟨.transferOwnership userID roomID _, .restoring actorID _⟩ => some ⟨userID, roomID, actorID, .owner⟩
  | _ => none

def newRows (roomID : UUID) (joinedAt : String) (ids : List UUID) : List Member :=
  (newMembers (ids.headD .nil) ids).map fun m => ⟨roomID, m.1, m.2, joinedAt⟩

/-- What the step of a call may do to the members of a room. -/
inductive RoomEffect (tick : Tick) (db : Database) (call : Call) (db' : Database) (roomID : UUID) : Prop where
  | same (h : membersOf db' roomID = membersOf db roomID)
  | create {userID : UUID} {req : CreateRoomRequest} {ids : List UUID}
      (hcall : call = ⟨.createRoom userID req, .authorized⟩) (hids : req.memberIDs.mapM parse = some ids)
      (hid : tick.id = roomID) (hfree : db.rooms.get? roomID = none)
      (h : membersOf db' roomID = membersOf db roomID ++ newRows roomID (formatTime tick.now) ids)
  | add {identityID : UUID} (hcall : call.adds = some (roomID, identityID))
      (h : membersOf db' roomID = membersOf db roomID ++ [⟨roomID, identityID, .member, formatTime tick.now⟩])
  | remove {identityID : UUID} (hcall : call.removes = some (roomID, identityID))
      (h : membersOf db' roomID = (membersOf db roomID).filter fun m => m.identityID ≠ identityID)
  | setRole {userID identityID : UUID} {role : Role} (hcall : call.setsRole = some ⟨userID, roomID, identityID, role⟩)
      (h : membersOf db' roomID = (membersOf db roomID).map (setRole roomID identityID role))
  | delete {userID : UUID} (hcall : call = ⟨.deleteRoom userID roomID, .authorized⟩) (h : membersOf db' roomID = [])

section RoomEffects

variable {call : Call} {db' : Database} {roomID : UUID}

theorem roomEffect_create {userID : UUID} {req : CreateRoomRequest} {room : Room} {ids : List UUID}
    (hids : req.memberIDs.mapM parse = some ids)
    (h : createRoomWithMembers db tick.now tick.id room (newMembers (ids.headD .nil) ids) = some db') :
    RoomEffect tick db ⟨.createRoom userID req, .authorized⟩ db' roomID := by
  obtain ⟨hfree, -, rfl⟩ := createRoomWithMembers_some h
  by_cases hid : tick.id = roomID
  · subst hid
    refine .create rfl hids rfl hfree ((membersOf_append _ _ _).trans (congrArg _ ?_))
    rw [List.filter_eq_self.2]
    · rfl
    · intro m hm
      obtain ⟨_, -, rfl⟩ := List.mem_map.1 hm
      exact decide_eq_true rfl
  · refine .same ((membersOf_append _ _ _).trans ?_)
    rw [List.filter_map, List.filter_eq_nil_iff.2 fun _ _ => by simpa using hid, List.map_nil, List.append_nil]

theorem roomEffect_add {id identityID : UUID} (hcall : call.adds = some (id, identityID))
    (h : addRoomMember db tick.now id identityID .member = some db') : RoomEffect tick db call db' roomID := by
  obtain ⟨-, -, rfl⟩ := addRoomMember_some h
  by_cases hid : id = roomID
  · subst hid
    refine .add hcall ((membersOf_append _ _ _).trans ?_)
    simp
  · refine .same ((membersOf_append _ _ _).trans ?_)
    simp [hid]

theorem roomEffect_remove {id identityID : UUID} (hcall : call.removes = some (id, identityID)) :
    RoomEffect tick db call (removeRoomMember db id identityID) roomID := by
  have hmembers := membersOf_removeRoomMember db roomID id identityID
  split at hmembers
  · rename_i hid
    subst hid
    exact .remove hcall hmembers
  · exact .same hmembers

theorem roomEffect_setRole {c : RoleChange} (hcall : call.setsRole = some c) :
    RoomEffect tick db call (updateRoomMemberRoleForUser db c.userID c.roomID c.identityID c.role).1 roomID := by
  obtain ⟨userID, id, identityID, role⟩ := c
  rw [updateRoomMemberRoleForUser_eq]
  split
  · by_cases hid : id = roomID
    · subst hid
      exact .setRole hcall (membersOf_map_setRole ..)
    · refine .same ((membersOf_map_setRole ..).trans ?_)
      calc (membersOf db roomID).map (Rooms.setRole id identityID role)
          = (membersOf db roomID).map (fun m => m) := List.map_congr_left fun m hm => by
            simp [Rooms.setRole, (mem_membersOf.1 hm).2, Ne.symm hid]
        _ = membersOf db roomID := List.map_id' _
  · exact .same rfl

theorem Effect.room (h : Effect tick db call db') (roomID : UUID) : RoomEffect tick db call db' roomID := by
  cases h with
  | none | count | moderate _ => exact .same rfl
  | createRoom hids _ h => exact roomEffect_create hids h
  | createChannel h =>
    obtain ⟨channels, rfl⟩ := createChannel_some h
    exact .same rfl
  | updateRoom h =>
    rw [(updateRoomSettingsForUser_some h).2.2]
    exact .same rfl
  | joinByHash h | joinByLink h | approve h => exact roomEffect_add rfl h
  | leave | kick => exact roomEffect_remove rfl
  | @updateRole userID id targetID text role hrole =>
    exact roomEffect_setRole (c := ⟨userID, id, targetID, role⟩) (by simp [Call.setsRole, hrole])
  | @deleteRoom userID id =>
    have hmembers := membersOf_deleteRoom db roomID id
    split at hmembers
    · rename_i hid
      subst hid
      exact .delete rfl hmembers
    · exact .same hmembers
  | @demote userID id targetID actorID => exact roomEffect_setRole (c := ⟨userID, id, actorID, .admin⟩) rfl
  | @promote userID id targetID actorID => exact roomEffect_setRole (c := ⟨userID, id, targetID, .owner⟩) rfl
  | @restore userID id targetID actorID err => exact roomEffect_setRole (c := ⟨userID, id, actorID, .owner⟩) rfl
  | createLink h =>
    rw [(createRoomInviteLink_some h).2]
    exact .same rfl
  | request h =>
    rw [(createRoomJoinRequest_some h).2]
    exact .same rfl

/-- What the step of a call may do to the row of a room. -/
inductive RowEffect (tick : Tick) (db : Database) (call : Call) (db' : Database) (roomID : UUID) : Prop where
  | same (h : db'.rooms.get? roomID = db.rooms.get? roomID)
  | create {room : Room} (hfree : db.rooms.get? roomID = none) (hroom : room.topSecret = false)
      (h : db'.rooms.get? roomID = some room)
  | update {userID : UUID} {req : UpdateRoomRequest} {settings : Settings}
      (hcall : call = ⟨.updateRoom userID roomID req, .updating settings⟩)
      (h : db'.rooms.get? roomID = (db.rooms.get? roomID).map (settings.write (formatTime tick.now)))
  | delete {userID : UUID} (hcall : call = ⟨.deleteRoom userID roomID, .authorized⟩)
      (h : db'.rooms.get? roomID = none)

theorem Effect.row (h : Effect tick db call db') (roomID : UUID) : RowEffect tick db call db' roomID := by
  cases h with
  | @createRoom _ _ room _ _ _ htop h =>
    obtain ⟨hfree, -, rfl⟩ := createRoomWithMembers_some h
    by_cases hid : roomID = tick.id
    · subst hid
      obtain ⟨new, hnew, htop⟩ : ∃ new, (db.rooms.insertOrIgnore tick.id { room with
          createdAt := formatTime tick.now, updatedAt := formatTime tick.now }).get? tick.id = some new ∧
            new.topSecret = false := by
        rw [Table.get?_insertOrIgnore, if_pos rfl, hfree]
        exact ⟨_, rfl, htop⟩
      exact .create hfree htop hnew
    · exact .same (by rw [Table.get?_insertOrIgnore, if_neg hid])
  | createChannel h =>
    obtain ⟨channels, rfl⟩ := createChannel_some h
    exact .same rfl
  | @updateRoom userID id req settings db' h =>
    obtain ⟨-, -, rfl⟩ := updateRoomSettingsForUser_some h
    by_cases hid : roomID = id
    · subst hid
      refine .update rfl ?_
      rw [Table.get?_updateWhere]
      simp
    · refine .same ?_
      rw [Table.get?_updateWhere]
      simp [hid]
  | joinByHash h | joinByLink h | approve h => exact .same (by rw [(addRoomMember_some h).2.2])
  | createLink h => exact .same (by rw [(createRoomInviteLink_some h).2])
  | request h => exact .same (by rw [(createRoomJoinRequest_some h).2])
  | @deleteRoom userID id =>
    by_cases hid : roomID = id
    · subst hid
      refine .delete rfl ?_
      rw [Rooms.deleteRoom, Table.get?_deleteWhere]
      simp
    · refine .same ?_
      rw [Rooms.deleteRoom, Table.get?_deleteWhere]
      cases db.rooms.get? roomID with
      | none => rfl
      | some room => simp [hid]
  | updateRole _ | demote | promote | restore => exact .same (by rw [apply_updateRole (f := Database.rooms) fun _ _ => rfl])
  | _ => exact .same rfl

theorem Effect.room_isSome (h : Effect tick db call db') (hdeletes : ∀ userID, call.request ≠ .deleteRoom userID roomID)
    (hroom : (db.rooms.get? roomID).isSome = true) : (db'.rooms.get? roomID).isSome = true := by
  cases h.row roomID <;> grind

end RoomEffects

theorem Effect.referential {db' : Database} (h : Effect tick db call db') (href : Referential db) :
    Referential db' := by
  refine href.of_members h.identities fun m hm => ?_
  -- a member that was there before, its room being there as before
  have hkeep : m ∈ db.members → db'.rooms = db.rooms →
      ((db.rooms.get? m.roomID).isSome = true → (db'.rooms.get? m.roomID).isSome = true) ∧
        ∃ m' ∈ db.members, m'.roomID = m.roomID ∧ m'.identityID = m.identityID := by
    intro hmem hrooms
    rw [hrooms]
    exact ⟨id, m, hmem, rfl, rfl⟩
  have hadd : ∀ roomID identityID, addRoomMember db tick.now roomID identityID .member = some db' →
      ((db.rooms.get? m.roomID).isSome = true → (db'.rooms.get? m.roomID).isSome = true) ∧
        (∃ m' ∈ db.members, m'.roomID = m.roomID ∧ m'.identityID = m.identityID) ∨
      (db'.rooms.get? m.roomID).isSome = true ∧ (db.identities.get? m.identityID).isSome = true := by
    intro roomID identityID hadd
    obtain ⟨hroom, hidentity, rfl⟩ := addRoomMember_some hadd
    obtain hmem | hnew := List.mem_append.1 hm
    · exact .inl (hkeep hmem rfl)
    · rw [List.mem_singleton.1 hnew]
      exact .inr ⟨hroom, hidentity⟩
  have hroles : ∀ userID roomID identityID role,
      db' = (updateRoomMemberRoleForUser db userID roomID identityID role).1 →
      ((db.rooms.get? m.roomID).isSome = true → (db'.rooms.get? m.roomID).isSome = true) ∧
        ∃ m' ∈ db.members, m'.roomID = m.roomID ∧ m'.identityID = m.identityID := by
    intro userID roomID identityID role hdb
    rw [updateRoomMemberRoleForUser_eq] at hdb
    split at hdb
    · rw [hdb] at hm ⊢
      obtain ⟨m', hm', rfl⟩ := List.mem_map.1 hm
      exact ⟨id, m', hm', by simp, by simp⟩
    · rw [hdb] at hm ⊢
      exact ⟨id, m, hm, rfl, rfl⟩
  cases h with
  | none | count | moderate _ => exact .inl (hkeep hm rfl)
  | createRoom _ _ h =>
    obtain ⟨-, hidentities, rfl⟩ := createRoomWithMembers_some h
    obtain hmem | hnew := List.mem_append.1 hm
    · refine .inl ⟨fun hroom => ?_, m, hmem, rfl, rfl⟩
      rw [Table.get?_insertOrIgnore]
      split
      · rfl
      exact hroom
    · obtain ⟨new, hmem, rfl⟩ := List.mem_map.1 hnew
      refine .inr ⟨?_, hidentities new hmem⟩
      rw [Table.get?_insertOrIgnore, if_pos rfl]
      rfl
  | createChannel h =>
    obtain ⟨channels, rfl⟩ := createChannel_some h
    exact .inl (hkeep hm rfl)
  | updateRoom h =>
    obtain ⟨-, -, rfl⟩ := updateRoomSettingsForUser_some h
    refine .inl ⟨fun hroom => ?_, m, hm, rfl, rfl⟩
    rw [Table.get?_updateWhere, Option.isSome_map]
    exact hroom
  | joinByHash h | joinByLink h | approve h => exact hadd _ _ h
  | leave | kick => exact .inl (hkeep (List.mem_filter.1 hm).1 rfl)
  | updateRole _ | demote | promote | restore => exact .inl (hroles _ _ _ _ rfl)
  | deleteRoom =>
    obtain ⟨hmem, hne⟩ := List.mem_filter.1 hm
    refine .inl ⟨fun hroom => ?_, m, hmem, rfl, rfl⟩
    rw [decide_eq_true_eq] at hne
    show ((db.rooms.deleteWhere _).get? m.roomID).isSome = true
    rw [Table.get?_deleteWhere]
    simpa [hne] using hroom
  | createLink h =>
    obtain ⟨-, rfl⟩ := createRoomInviteLink_some h
    exact .inl (hkeep hm rfl)
  | request h =>
    obtain ⟨-, rfl⟩ := createRoomJoinRequest_some h
    exact .inl (hkeep hm rfl)

end Effects

end GaiaCom.Rooms
