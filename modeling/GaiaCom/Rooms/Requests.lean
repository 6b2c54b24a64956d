/-
Join requests and who decides on them, one call after the other.

`ModerateRoomJoinRequest` asks whether the user is an admin of the room that is passed, and then updates the request
that is passed, whatever room it is for and whether it is decided or not. So an admin of one room decides on the
requests of all others, adds their requesters to their own room, and adds a requester again and again. If the request
is a pending one of the room, requests are scoped to their room (`join_requests_scoped`).
-/
import GaiaCom.Rooms.Effects

namespace GaiaCom.Rooms

open Lib Core GaiaCom.Store

/-! ## Calls and their records -/

/-- The database, and the requests for which a call has added a member, as often as it did. -/
structure Ledger where
  db : Database
  admitted : List UUID

def record (sha256 : String → String) (s : Ledger) (op : Operation) : Ledger where
  db := perform sha256 s.db op
  admitted :=
    match op.request with
    | .moderateRoomJoinRequest _ _ reqID _ =>
      if (perform sha256 s.db op).members = s.db.members then s.admitted else s.admitted ++ [reqID]
    | _ => s.admitted

def Request.pertinent (db : Database) : Request → Bool
  | .moderateRoomJoinRequest userID roomID reqID text =>
    !userIsRoomAdmin db userID roomID || parseStatus text = none ||
      (db.joinRequests.get? reqID).all fun req => req.roomID = roomID && req.status = .pending
  | _ => true

/-- The request is pertinent, and an id that is drawn is not that of a former request. -/
def Pertinent (s : Ledger) (op : Operation) : Prop :=
  op.request.pertinent s.db = true ∧ ∀ tick ∈ op.ticks, tick.id ∉ s.admitted

instance (s : Ledger) : DecidablePred (Pertinent s) := fun _ => inferInstanceAs (Decidable (_ ∧ _))

/-- A decision of a user does not change a request of a room that they are no admin of. If it adds a member, then the
requester of a pending request of that room, and it was to approve. -/
def Scoped (sha256 : String → String) (db : Database) (op : Operation) : Prop :=
  ∀ userID roomID reqID text, op.request = .moderateRoomJoinRequest userID roomID reqID text →
    (∀ id req, db.joinRequests.get? id = some req → userIsRoomAdmin db userID req.roomID = false →
      (perform sha256 db op).joinRequests.get? id = some req) ∧
    ((perform sha256 db op).members ≠ db.members → parseStatus text = some .approved ∧
      ∃ req joinedAt, db.joinRequests.get? reqID = some req ∧ req.roomID = roomID ∧ req.status = .pending ∧
        (perform sha256 db op).members = db.members ++ [⟨roomID, req.identityID, .member, joinedAt⟩])

/-! ## Decisions -/

/-- Where a decision can be, and what it has done to the database by then. -/
inductive Moderated (db : Database) (userID roomID reqID : UUID) (text : String) : Stage → Database → Prop where
  | started : Moderated db userID roomID reqID text .started db
  | refused (err : RoomError) : Moderated db userID roomID reqID text (.failed err) db
  | authorized (hadmin : userIsRoomAdmin db userID roomID = true) :
      Moderated db userID roomID reqID text .authorized db
  | moderated {status : RequestStatus} (hadmin : userIsRoomAdmin db userID roomID = true)
      (hstatus : parseStatus text = some status) (now : Nat) :
      Moderated db userID roomID reqID text (.moderated status) (moderateRoomJoinRequest db now reqID status)
  | approved {req : JoinRequest} (hadmin : userIsRoomAdmin db userID roomID = true)
      (hstatus : parseStatus text = some .approved) (hreq : db.joinRequests.get? reqID = some req) (now : Nat) :
      Moderated db userID roomID reqID text (.approved req.identityID) (moderateRoomJoinRequest db now reqID .approved)
  | decided {status : RequestStatus} {stage : Stage} (hadmin : userIsRoomAdmin db userID roomID = true)
      (hstatus : parseStatus text = some status) (now : Nat)
      (hstage : (∃ err, stage = .failed err) ∨ stage = .succeeded none) :
      Moderated db userID roomID reqID text stage (moderateRoomJoinRequest db now reqID status)
  | admitted {req : JoinRequest} {now' : Nat} {db' : Database} (hadmin : userIsRoomAdmin db userID roomID = true)
      (hstatus : parseStatus text = some .approved) (hreq : db.joinRequests.get? reqID = some req) (now : Nat)
      (h : addRoomMember (moderateRoomJoinRequest db now reqID .approved) now' roomID req.identityID .member =
        some db') : Moderated db userID roomID reqID text (.succeeded none) db'

section Decisions

variable {sha256 : String → String} {db s : Database} {userID roomID reqID : UUID} {text : String} {stage : Stage}
  {tick : Tick}

theorem get?_moderate (db : Database) (now : Nat) (reqID : UUID) (status : RequestStatus) (id : UUID) :
    (moderateRoomJoinRequest db now reqID status).joinRequests.get? id = (db.joinRequests.get? id).map fun req =>
      if id = reqID then { req with status := status, updatedAt := formatTime now } else req := by
  simp [moderateRoomJoinRequest]

theorem moderated_next (h : Moderated db userID roomID reqID text stage s) :
    Moderated db userID roomID reqID text (nextModerate tick s userID roomID reqID text stage).2
      (nextModerate tick s userID roomID reqID text stage).1 := by
  cases h with
  | started =>
    grind [nextModerate, grant, Moderated]
  | refused err => exact .refused err
  | authorized hadmin =>
    simp only [nextModerate]
    split
    · exact .refused _
    rename_i status hstatus
    simp only [execute]
    split
    · exact .refused _
    rename_i db' hdb
    split at hdb
    · cases hdb
    obtain rfl := Option.some.inj hdb
    exact .moderated hadmin hstatus tick.now
  | @moderated status hadmin hstatus now =>
    grind [nextModerate, get?_moderate, Option.map_eq_some_iff, Moderated]
  | approved hadmin hstatus hreq now =>
    grind [nextModerate, execute, Moderated]
  | decided hadmin hstatus now hstage =>
    grind [Moderated, nextModerate]
  | admitted hadmin hstatus hreq now h => exact .admitted hadmin hstatus hreq now h

theorem perform_moderate (sha256 : String → String) (db : Database) (userID roomID reqID : UUID) (text : String)
    (ticks : List Tick) :
    ∃ stage, Moderated db userID roomID reqID text stage
      (perform sha256 db ⟨.moderateRoomJoinRequest userID roomID reqID text, ticks⟩) := by
  have hnext : ∀ (tick : Tick) (s : Database) (call : Call),
      call.request = .moderateRoomJoinRequest userID roomID reqID text ∧
        Moderated db userID roomID reqID text call.stage s →
      (next sha256 tick s call).2.request = .moderateRoomJoinRequest userID roomID reqID text ∧
        Moderated db userID roomID reqID text (next sha256 tick s call).2.stage (next sha256 tick s call).1 := by
    rintro tick s ⟨request, stage⟩ ⟨rfl, h⟩
    exact ⟨rfl, moderated_next h⟩
  have hinit : (Call.begin (.moderateRoomJoinRequest userID roomID reqID text)).request =
        .moderateRoomJoinRequest userID roomID reqID text ∧
      Moderated db userID roomID reqID text (Call.begin (.moderateRoomJoinRequest userID roomID reqID text)).stage db :=
    ⟨rfl, .started⟩
  exact ⟨_, (Pool.alone_invariant (I := fun s call =>
    call.request = .moderateRoomJoinRequest userID roomID reqID text ∧
      Moderated db userID roomID reqID text call.stage s) hnext hinit ticks).2⟩

theorem pertinent_moderate {status : RequestStatus} {req : JoinRequest}
    (h : (Request.moderateRoomJoinRequest userID roomID reqID text).pertinent db = true)
    (hadmin : userIsRoomAdmin db userID roomID = true) (hstatus : parseStatus text = some status)
    (hreq : db.joinRequests.get? reqID = some req) : req.roomID = roomID ∧ req.status = .pending := by
  simpa [Request.pertinent, hadmin, hstatus, hreq] using h

theorem scoped_of_pertinent {op : Operation} (h : op.request.pertinent db = true) : Scoped sha256 db op := by
  obtain ⟨request, ticks⟩ := op
  rintro userID roomID reqID text rfl
  -- a request of another room is not the one that is decided on
  have hother : ∀ status now, userIsRoomAdmin db userID roomID = true → parseStatus text = some status →
      ∀ id req, db.joinRequests.get? id = some req → userIsRoomAdmin db userID req.roomID = false →
        (moderateRoomJoinRequest db now reqID status).joinRequests.get? id = some req := by
    grind [pertinent_moderate, get?_moderate]
  obtain ⟨stage, hdone⟩ := perform_moderate sha256 db userID roomID reqID text ticks
  generalize perform sha256 db ⟨.moderateRoomJoinRequest userID roomID reqID text, ticks⟩ = db' at hdone
  cases hdone with
  | started | refused | authorized => exact ⟨fun _ _ hreq _ => hreq, absurd rfl⟩
  | moderated hadmin hstatus now | approved hadmin hstatus _ now | decided hadmin hstatus now =>
    exact ⟨hother _ now hadmin hstatus, absurd rfl⟩
  | @admitted req now' _ hadmin hstatus hreq now hadded =>
    obtain ⟨-, -, rfl⟩ := addRoomMember_some hadded
    obtain ⟨hroom, hpending⟩ := pertinent_moderate h hadmin hstatus hreq
    exact ⟨hother _ now hadmin hstatus, fun _ => ⟨hstatus, req, _, hreq, hroom, hpending, rfl⟩⟩

end Decisions

/-! ## Once for each request -/

section Once

variable {sha256 : String → String} {tick : Tick} {db db' : Database} {call : Call}

theorem parseStatus_ne_pending {text : String} {status : RequestStatus} (h : parseStatus text = some status) :
    status ≠ .pending := by
  grind [parseStatus]

theorem Effect.joinRequests (h : Effect tick db call db') {id : UUID} {req : JoinRequest}
    (hreq : db'.joinRequests.get? id = some req) (hpending : req.status = .pending) :
    db.joinRequests.get? id = some req ∨ id = tick.id := by
  cases h with
  | createRoom _ _ h | createChannel h | updateRoom h | createLink h =>
    grind
  | joinByHash h | joinByLink h | approve h =>
    rw [(addRoomMember_some h).2.2] at hreq
    exact .inl hreq
  | request h =>
    grind [Table.get?_insertOrIgnore]
  | @deleteRoom userID roomID =>
    grind [Rooms.deleteRoom, Table.get?_deleteWhere, Option.filter_eq_some_iff]
  | @moderate userID roomID reqID text status hstatus =>
    grind [get?_moderate, Option.map_eq_some_iff, parseStatus_ne_pending]
  | updateRole _ | demote | promote | restore =>
    rw [apply_updateRole (f := Database.joinRequests) fun _ _ => rfl] at hreq
    exact .inl hreq
  | _ => exact .inl hreq

/-- The requests are not pending. -/
def Decided (admitted : List UUID) (db : Database) : Prop :=
  ∀ id ∈ admitted, ∀ req, db.joinRequests.get? id = some req → req.status ≠ .pending

theorem decided_perform {op : Operation} {admitted : List UUID} (h : Decided admitted db)
    (hfresh : ∀ tick ∈ op.ticks, tick.id ∉ admitted) : Decided admitted (perform sha256 db op) := by
  have hnext : ∀ tick ∈ op.ticks, ∀ (s : Database) (call : Call), Decided admitted s →
      Decided admitted (next sha256 tick s call).1 := by
    intro tick htick s call hdecided id hid req hreq hpending
    obtain hbefore | hnew := (next_effect sha256 tick s call).joinRequests hreq hpending
    · exact hdecided id hid req hbefore hpending
    · exact hfresh tick htick (hnew ▸ hid)
  exact Pool.alone_invariant_of_mem (I := fun s _ => Decided admitted s) hnext h

theorem decided_of_admitted {userID roomID reqID : UUID} {text : String} {ticks : List Tick}
    (h : (perform sha256 db ⟨.moderateRoomJoinRequest userID roomID reqID text, ticks⟩).members ≠ db.members)
    (req : JoinRequest)
    (hreq : (perform sha256 db ⟨.moderateRoomJoinRequest userID roomID reqID text, ticks⟩).joinRequests.get? reqID =
      some req) : req.status ≠ .pending := by
  obtain ⟨stage, hdone⟩ := perform_moderate sha256 db userID roomID reqID text ticks
  generalize perform sha256 db ⟨.moderateRoomJoinRequest userID roomID reqID text, ticks⟩ = db' at hdone h hreq
  cases hdone with
  | @admitted _ _ _ _ _ _ now hadded =>
    grind [get?_moderate]
  | _ => exact absurd rfl h

theorem record_once {s : Ledger} {op : Operation} (h : s.admitted.Nodup ∧ Decided s.admitted s.db)
    (hok : Pertinent s op) :
    (record sha256 s op).admitted.Nodup ∧ Decided (record sha256 s op).admitted (record sha256 s op).db := by
  have hdecided : Decided s.admitted (perform sha256 s.db op) := decided_perform h.2 hok.2
  obtain ⟨request, ticks⟩ := op
  unfold record
  simp only
  split
  · rename_i userID roomID reqID text
    split
    · exact ⟨h.1, hdecided⟩
    rename_i hchanged
    obtain ⟨hstatus, req, joinedAt, hreq, -, hpending, -⟩ :=
      (scoped_of_pertinent hok.1 userID roomID reqID text rfl).2 hchanged
    have hnew : reqID ∉ s.admitted := fun hmem => h.2 reqID hmem req hreq hpending
    grind [decided_of_admitted, Decided]
  · exact ⟨h.1, hdecided⟩

end Once

/-- If the decisions of a sequence of calls are on pending requests of the room that is passed, and ids are drawn once:
no user changes a request of a room that they are no admin of, every member that a decision adds is the requester of a
pending request of the room, and each request adds its requester at most once. -/
theorem join_requests_scoped (sha256 : String → String) (db : Database) (ops : List Operation)
    (hrun : Along (record sha256) Pertinent ⟨db, []⟩ ops) :
    Along (record sha256) (fun s op => Scoped sha256 s.db op) ⟨db, []⟩ ops ∧
      (exec (record sha256) ⟨db, []⟩ ops).admitted.Nodup := by
  have hinit : ([] : List UUID).Nodup ∧ Decided [] db := ⟨List.nodup_nil, nofun⟩
  refine ⟨hrun.imp fun s op hok => scoped_of_pertinent hok.1, ?_⟩
  exact (Along.invariant (P := fun s : Ledger => s.admitted.Nodup ∧ Decided s.admitted s.db)
    (fun _ _ h hok => record_once h hok) hinit hrun).1

def sampleRooms : Database :=
  { sampleDatabase [sampleMember 1 .owner, ⟨.ofByte 6, .ofByte 2, .owner, ""⟩] with
    rooms := ⟨[(.ofByte 7, sampleRoom), (.ofByte 6, sampleRoom)], by decide⟩
    joinRequests := ⟨[(.ofByte 9, ⟨.ofByte 6, .ofByte 3, .pending, "", ""⟩)], by decide⟩ }

def sampleDecision (userID roomID : UInt8) (status : String) : Operation :=
  sampleOperation (.moderateRoomJoinRequest (.ofByte userID) (.ofByte roomID) (.ofByte 9) status) 4

/-- The second user approves the request for their room, and nobody else decides on it. -/
theorem request_granted_once :
    ((exec (record id) ⟨sampleRooms, []⟩ [sampleDecision 11 6 "approved", sampleDecision 12 6 " Approved"]).admitted =
        [.ofByte 9]) ∧
      Along (record id) (fun s op => Scoped id s.db op) ⟨sampleRooms, []⟩
        [sampleDecision 11 6 "approved", sampleDecision 12 6 " Approved"] ∧
      (exec (record id) ⟨sampleRooms, []⟩
        [sampleDecision 11 6 "approved", sampleDecision 12 6 " Approved"]).admitted.Nodup := by
  refine And.imp_right (fun hrun => join_requests_scoped id sampleRooms _ hrun) ?_
  decide +kernel

/-- The first user, who is no admin of the other room, approves the request for it twice, and its requester is added to
their room each time. -/
theorem request_of_other_room :
    userIsRoomAdmin sampleRooms (.ofByte 11) (.ofByte 6) = false ∧
      ((perform id sampleRooms (sampleDecision 11 7 "approved")).joinRequests.get? (.ofByte 9)).map JoinRequest.status =
        some .approved ∧
      (exec (record id) ⟨sampleRooms, []⟩
        [sampleDecision 11 7 "approved", sampleDecision 11 7 "approved"]).admitted = [.ofByte 9, .ofByte 9] ∧
      (membersOf (exec (record id) ⟨sampleRooms, []⟩
        [sampleDecision 11 7 "approved", sampleDecision 11 7 "approved"]).db (.ofByte 7)).map Member.identityID =
        [.ofByte 1, .ofByte 3, .ofByte 3] := by
  decide +kernel

end GaiaCom.Rooms
