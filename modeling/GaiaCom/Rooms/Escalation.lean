/-
What members and admins of a room can do to its owner and its other admins, one call after the other.

`KickMember` spares the owner and, unless the owner calls it, the admins. The other calls do not: an admin may give the
owner or another admin the role of a member, may delete the room, and may approve a request of someone who is in the
room, whose new row then is the one that `KickMember` looks at. Without these the owner stays the owner, and no admin is
kicked by another user (`moderators_do_not_escalate`).
-/
import GaiaCom.Rooms.Membership

namespace GaiaCom.Rooms

open Lib Core GaiaCom.Store

/-! ## Owners and admins -/

def isRanked (db : Database) (roomID identityID : UUID) : Bool :=
  (membersOf db roomID).any fun m => m.identityID = identityID && m.role.isAdmin

def ownsNoOwner (db : Database) (roomID userID : UUID) : Bool :=
  userID ≠ .nil && (membersOf db roomID).all fun m => m.role ≠ .owner || !isOf db userID m.identityID

def ownerRows (start db : Database) (roomID : UUID) : List Member :=
  (membersOf db roomID).filter fun m => isOwner start roomID m.identityID

def readmits (start : Database) (roomID : UUID) (target : Option UUID) (identityID : UUID) : Bool :=
  target = some roomID && isRanked start roomID identityID

/-- The call gives no role to the owner or an admin, does not delete the room, and adds no former owner or admin. -/
def Request.careful (start : Database) (roomID : UUID) (db : Database) : Request → Bool
  | .updateMemberRole _ id targetID _ => !(id = roomID && isRanked start roomID targetID)
  | .deleteRoom _ id => id ≠ roomID
  | .joinRoomByHash _ identityID hash =>
    !readmits start roomID ((findRoomBySecretHash db hash).map Prod.fst) identityID || isMember db roomID identityID
  | .joinRoomViaInviteLink _ identityID token =>
    !readmits start roomID ((db.inviteLinks.get? token).map InviteLink.roomID) identityID ||
      isMember db roomID identityID
  | .moderateRoomJoinRequest _ id reqID status =>
    parseStatus status ≠ some .approved ||
      (db.joinRequests.get? reqID).all fun req => !readmits start roomID (some id) req.identityID
  | _ => true

def Careful (roomID : UUID) (start db : Database) (op : Operation) : Prop :=
  op.request.careful start roomID db = true

instance (roomID : UUID) (start db : Database) : DecidablePred (Careful roomID start db) :=
  fun op => inferInstanceAs (Decidable (op.request.careful start roomID db = true))

/-- If the operation is another user's kick, it does not remove an identity that was an admin at the start. -/
def SparesAdmins (sha256 : String → String) (roomID : UUID) (start db : Database) (op : Operation) : Prop :=
  ∀ userID targetID, op.request = .kickMember userID roomID targetID →
    (∃ m ∈ membersOf start roomID, m.identityID = targetID ∧ m.role = .admin) → isOf start userID targetID = false →
    isMember db roomID targetID = true → isMember (perform sha256 db op) roomID targetID = true

/-! ## What is kept -/

/-- The owners have their rows, nobody else is an owner, and the admins have their roles as long as they stay. -/
structure Kept (roomID : UUID) (start db : Database) : Prop where
  identities : db.identities = start.identities
  room : (db.rooms.get? roomID).isSome = true
  rows : ownerRows start db roomID = ownerRows start start roomID
  ranked : ∀ m ∈ membersOf db roomID, isRanked start roomID m.identityID = true → m ∈ membersOf start roomID
  owner : ∀ m ∈ membersOf db roomID, m.role = .owner → isOwner start roomID m.identityID = true

/-- What the next statement of a call may be. -/
structure Allowed (roomID : UUID) (start : Database) (call : Call) : Prop where
  adds : ∀ identityID, call.adds = some (roomID, identityID) → isRanked start roomID identityID = false
  removes : ∀ identityID, call.removes = some (roomID, identityID) → isOwner start roomID identityID = false
  sets : ∀ c, call.setsRole = some c → c.roomID = roomID →
    isRanked start roomID c.identityID = false ∧ c.role ≠ .owner
  deletes : ∀ userID, call.request ≠ .deleteRoom userID roomID

section Kept

variable {sha256 : String → String} {roomID userID identityID targetID : UUID} {start db db' : Database} {tick : Tick}
  {call : Call}

theorem isRanked_iff : isRanked db roomID identityID = true ↔
    ∃ m ∈ membersOf db roomID, m.identityID = identityID ∧ m.role.isAdmin = true := by
  simp [isRanked]

theorem isRanked_of_isOwner (h : isOwner db roomID identityID = true) : isRanked db roomID identityID = true := by
  obtain ⟨m, hm, hid, hrole⟩ := isOwner_iff.1 h
  exact isRanked_iff.2 ⟨m, hm, hid, by rw [hrole]; rfl⟩

theorem not_isOwner_of_not_isRanked (h : isRanked db roomID identityID = false) :
    isOwner db roomID identityID = false := by
  rw [← Bool.not_eq_true] at h ⊢
  exact mt isRanked_of_isOwner h

theorem Kept.refl (hroom : (db.rooms.get? roomID).isSome = true) : Kept roomID db db where
  identities := rfl
  room := hroom
  rows := rfl
  ranked _ hm _ := hm
  owner m hm hrole := isOwner_iff.2 ⟨m, hm, rfl, hrole⟩

theorem Kept.of_members (h : Kept roomID start db) (hidentities : db'.identities = db.identities)
    (hroom : (db'.rooms.get? roomID).isSome = true) (hmembers : membersOf db' roomID = membersOf db roomID) :
    Kept roomID start db' where
  identities := hidentities.trans h.identities
  room := hroom
  rows := by
    unfold ownerRows
    rw [hmembers]
    exact h.rows
  ranked := by
    rw [hmembers]
    exact h.ranked
  owner := by
    rw [hmembers]
    exact h.owner

theorem kept_next (h : Kept roomID start db) (hallowed : Allowed roomID start call) :
    Kept roomID start (next sha256 tick db call).1 := by
  have heffect := next_effect sha256 tick db call
  have hroom := heffect.room_isSome hallowed.deletes h.room
  have hidentities := heffect.identities
  cases heffect.room roomID with
  | same hmembers => exact h.of_members hidentities hroom hmembers
  | create _ _ _ hfree _ =>
    have hsome := h.room
    rw [hfree] at hsome
    cases hsome
  | @add identityID hadds hmembers =>
    have hnew := hallowed.adds identityID hadds
    refine ⟨hidentities.trans h.identities, hroom, ?_, ?_, ?_⟩
    · rw [← h.rows]
      unfold ownerRows
      rw [hmembers, List.filter_append]
      simp [not_isOwner_of_not_isRanked hnew]
    · rw [hmembers]
      intro m hm hranked
      obtain hm | hm := List.mem_append.1 hm
      · exact h.ranked m hm hranked
      · rw [List.mem_singleton.1 hm, hnew] at hranked
        cases hranked
    · rw [hmembers]
      intro m hm hrole
      obtain hm | hm := List.mem_append.1 hm
      · exact h.owner m hm hrole
      · rw [List.mem_singleton.1 hm] at hrole
        cases hrole
  | @remove identityID hremoves hmembers =>
    have hnot := hallowed.removes identityID hremoves
    refine ⟨hidentities.trans h.identities, hroom, ?_, ?_, ?_⟩
    · rw [← h.rows]
      unfold ownerRows
      rw [hmembers, List.filter_filter]
      refine List.filter_congr fun m _ => ?_
      by_cases hm : m.identityID = identityID
      · simp [hm, hnot]
      · simp [hm]
    · rw [hmembers]
      exact fun m hm => h.ranked m (List.mem_filter.1 hm).1
    · rw [hmembers]
      exact fun m hm => h.owner m (List.mem_filter.1 hm).1
  | @setRole userID targetID role hsets hmembers =>
    obtain ⟨hnot, hrole⟩ := hallowed.sets _ hsets rfl
    have hother : ∀ m : Member, m.identityID ≠ targetID → setRole roomID targetID role m = m := by
      intro m hm
      simp [setRole, hm]
    refine ⟨hidentities.trans h.identities, hroom, ?_, ?_, ?_⟩
    · rw [← h.rows]
      unfold ownerRows
      rw [hmembers, List.filter_map]
      have hsame : ∀ m ∈ (membersOf db roomID).filter
            ((fun m => isOwner start roomID m.identityID) ∘ setRole roomID targetID role),
          setRole roomID targetID role m = m := by
        intro m hm
        refine hother m ?_
        rintro rfl
        have howner := (List.mem_filter.1 hm).2
        rw [Function.comp_apply, setRole_identityID, not_isOwner_of_not_isRanked hnot] at howner
        cases howner
      rw [List.map_congr_left hsame, List.map_id']
      exact List.filter_congr fun m _ => by simp
    · rw [hmembers]
      intro m hm hranked
      obtain ⟨m, hm', rfl⟩ := List.mem_map.1 hm
      rw [setRole_identityID] at hranked
      have hne : m.identityID ≠ targetID := by
        rintro rfl
        rw [hnot] at hranked
        cases hranked
      rw [hother m hne]
      exact h.ranked m hm' hranked
    · rw [hmembers]
      intro m hm howner
      obtain ⟨m, hm', rfl⟩ := List.mem_map.1 hm
      rw [setRole_identityID]
      rw [setRole_role] at howner
      split at howner
      · exact absurd howner hrole
      exact h.owner m hm' howner
  | @delete userID hdeletes _ => exact absurd (by rw [hdeletes]) (hallowed.deletes userID)

end Kept

/-! ## What the calls let through -/

/-- What is known of a call on its way: it does not come to a statement that is not allowed. -/
def Call.spares (roomID : UUID) (start db : Database) : Call → Prop
  | ⟨.updateMemberRole _ id targetID _, _⟩ => id = roomID → isRanked start roomID targetID = false
  | ⟨.deleteRoom _ id, _⟩ => id ≠ roomID
  | ⟨.leaveRoom userID _ identityID, .authorized⟩ => isOf start userID identityID = true
  | ⟨.kickMember _ id targetID, .kicking⟩ => id = roomID → isRanked start roomID targetID = false
  | ⟨.transferOwnership _ id _, .transferring _⟩ => id ≠ roomID
  | ⟨.transferOwnership _ id _, .demoted _⟩ => id ≠ roomID
  | ⟨.transferOwnership _ id _, .restoring _ _⟩ => id ≠ roomID
  | ⟨.joinRoomByHash _ identityID hash, .started⟩ =>
    readmits start roomID ((findRoomBySecretHash db hash).map Prod.fst) identityID = true →
      isMember db roomID identityID = true
  | ⟨.joinRoomByHash _ identityID hash, .authorized⟩ =>
    readmits start roomID ((findRoomBySecretHash db hash).map Prod.fst) identityID = true →
      isMember db roomID identityID = true
  | ⟨.joinRoomByHash _ identityID _, .read id _⟩ =>
    readmits start roomID (some id) identityID = true → isMember db roomID identityID = true
  | ⟨.joinRoomByHash _ identityID _, .joining id⟩ => readmits start roomID (some id) identityID = false
  | ⟨.joinRoomViaInviteLink _ identityID token, .started⟩ =>
    readmits start roomID ((db.inviteLinks.get? token).map InviteLink.roomID) identityID = true →
      isMember db roomID identityID = true
  | ⟨.joinRoomViaInviteLink _ identityID token, .authorized⟩ =>
    readmits start roomID ((db.inviteLinks.get? token).map InviteLink.roomID) identityID = true →
      isMember db roomID identityID = true
  | ⟨.joinRoomViaInviteLink _ identityID _, .invited id⟩ =>
    readmits start roomID (some id) identityID = true → isMember db roomID identityID = true
  | ⟨.joinRoomViaInviteLink _ identityID _, .read id _⟩ =>
    readmits start roomID (some id) identityID = true → isMember db roomID identityID = true
  | ⟨.joinRoomViaInviteLink _ identityID _, .joining id⟩ => readmits start roomID (some id) identityID = false
  | ⟨.moderateRoomJoinRequest _ id reqID text, .started⟩ => parseStatus text = some .approved →
    ∀ req, db.joinRequests.get? reqID = some req → readmits start roomID (some id) req.identityID = false
  | ⟨.moderateRoomJoinRequest _ id reqID text, .authorized⟩ => parseStatus text = some .approved →
    ∀ req, db.joinRequests.get? reqID = some req → readmits start roomID (some id) req.identityID = false
  | ⟨.moderateRoomJoinRequest _ id reqID _, .moderated status⟩ => status = .approved →
    ∀ req, db.joinRequests.get? reqID = some req → readmits start roomID (some id) req.identityID = false
  | ⟨.moderateRoomJoinRequest _ id _ _, .approved identityID⟩ => readmits start roomID (some id) identityID = false
  | _ => True

section Calls

variable {sha256 : String → String} {roomID userID identityID targetID : UUID} {start db : Database} {tick : Tick}
  {call : Call}

variable {id : UUID}

theorem readmits_iff : readmits start roomID (some id) identityID = true ↔
    id = roomID ∧ isRanked start roomID identityID = true := by
  simp [readmits]

variable {m : RoomMember}

theorem mem_findRoomMembers (h : m ∈ findRoomMembers db roomID) :
    ∃ row ∈ membersOf db roomID, row.identityID = m.identityID ∧ row.role = m.role ∧
      (m.userID ≠ .nil → isOf db m.userID row.identityID = true) := by
  obtain ⟨row, hrow, rfl⟩ := List.mem_map.1 h
  refine ⟨row, (List.mem_insertionSort _).1 hrow, rfl, rfl, fun hne => ?_⟩
  unfold RoomMember.userID at hne ⊢
  cases hidentity : (db.identities.get? row.identityID).filter fun _ => row.identityID ≠ .nil with
  | none =>
    rw [hidentity] at hne
    exact absurd rfl hne
  | some ident =>
    obtain ⟨hget, -⟩ := Option.filter_eq_some_iff.1 hidentity
    rw [isOf, hget]
    simp

theorem role_ne_owner (h : Kept roomID start db) (huser : ownsNoOwner start roomID userID = true)
    (hm : m ∈ findRoomMembers db roomID) (hof : m.userID = userID) : m.role ≠ .owner := by
  intro howner
  obtain ⟨row, hrow, -, hrole, hisOf⟩ := mem_findRoomMembers hm
  obtain ⟨first, hfirst, hid, hfirstRole⟩ := isOwner_iff.1 (h.owner row hrow (hrole.trans howner))
  rw [ownsNoOwner, Bool.and_eq_true, decide_eq_true_eq, List.all_eq_true] at huser
  have hof := hisOf (hof ▸ huser.1)
  rw [isOf, h.identities] at hof
  have hnot := huser.2 first hfirst
  rw [hfirstRole, hid, isOf, ‹m.userID = userID›.symm, hof] at hnot
  cases hnot

theorem isAdmin_of_ranked (h : Kept roomID start db) (hrows : OneRow start roomID)
    (hranked : isRanked start roomID targetID = true) (hm : m ∈ findRoomMembers db roomID)
    (hid : m.identityID = targetID) : m.role.isAdmin = true := by
  obtain ⟨row, hrow, hsame, hrole, -⟩ := mem_findRoomMembers hm
  have hfirst := h.ranked row hrow (by rw [hsame, hid]; exact hranked)
  obtain ⟨first, hmem, hsame', hadmin⟩ := isRanked_iff.1 hranked
  have heq : row = first := List.inj_on_of_nodup_map hrows hfirst hmem (by rw [hsame, hid, hsame'])
  rw [← hrole, heq]
  exact hadmin

theorem checkKick_ranked (h : Kept roomID start db) (hrows : OneRow start roomID)
    (huser : ownsNoOwner start roomID userID = true) (hranked : isRanked start roomID targetID = true) :
    ∃ err, checkKick (findRoomMembers db roomID) userID targetID = .error err := by
  unfold checkKick
  split
  · exact ⟨_, rfl⟩
  rename_i target htarget
  rw [List.findRev?_eq_find?_reverse] at htarget
  have hid : target.identityID = targetID := by simpa using List.find?_some htarget
  have hadmin := isAdmin_of_ranked h hrows hranked (List.mem_reverse.1 (List.mem_of_find?_eq_some htarget)) hid
  have hactor : (((findRoomMembers db roomID).find? fun m => m.userID = userID).map RoomMember.role).getD .admin ≠
      .owner := by
    cases hfind : (findRoomMembers db roomID).find? fun m => m.userID = userID with
    | none => exact nofun
    | some m =>
      exact role_ne_owner h huser (List.mem_of_find?_eq_some hfind) (by simpa using List.find?_some hfind)
  cases hrole : target.role with
  | owner => exact ⟨.kickOwner, by simp⟩
  | admin => exact ⟨.kickAdmin, by simp [hactor]⟩
  | member =>
    rw [hrole] at hadmin
    cases hadmin

theorem checkTransfer_error (h : Kept roomID start db) (huser : ownsNoOwner start roomID userID = true) :
    checkTransfer (findRoomMembers db roomID) userID targetID = .error .notOwner := by
  unfold checkTransfer
  split
  · rfl
  rename_i actor hactor
  rw [List.findRev?_eq_find?_reverse] at hactor
  have hne := role_ne_owner h huser (List.mem_reverse.1 (List.mem_of_find?_eq_some hactor))
    (by simpa using List.find?_some hactor)
  rw [if_pos hne]

theorem allowed_of_spares (huser : ownsNoOwner start roomID call.request.userID = true)
    (h : call.spares roomID start db) : Allowed roomID start call := by
  have hnew : ∀ identityID, readmits start roomID (some roomID) identityID = false →
      isRanked start roomID identityID = false := by
    intro identityID hnot
    rw [← Bool.not_eq_true, readmits_iff] at hnot
    rw [← Bool.not_eq_true]
    exact fun hranked => hnot ⟨rfl, hranked⟩
  constructor
  · intro identityID hadds
    unfold Call.adds at hadds
    split at hadds
    · cases hadds
      exact hnew identityID h
    · cases hadds
      exact hnew identityID h
    · cases hadds
      exact hnew identityID h
    · cases hadds
  · intro identityID hremoves
    unfold Call.removes at hremoves
    split at hremoves
    · cases hremoves
      rw [← Bool.not_eq_true]
      intro howner
      obtain ⟨m, hm, hid, hrole⟩ := isOwner_iff.1 howner
      rw [ownsNoOwner, Bool.and_eq_true, List.all_eq_true] at huser
      have hnot := huser.2 m hm
      have hof : isOf start _ identityID = true := h
      rw [hrole, hid, Request.userID, hof] at hnot
      cases hnot
    · cases hremoves
      exact not_isOwner_of_not_isRanked (h rfl)
    · cases hremoves
  · intro c hsets hroom
    unfold Call.setsRole at hsets
    split at hsets
    · obtain ⟨role, hparse, rfl⟩ := Option.map_eq_some_iff.1 hsets
      exact ⟨h hroom, parseRole_ne_owner hparse⟩
    · cases hsets
      exact absurd hroom h
    · cases hsets
      exact absurd hroom h
    · cases hsets
      exact absurd hroom h
    · cases hsets
  · intro userID hdeletes
    obtain ⟨request, stage⟩ := call
    obtain rfl : request = .deleteRoom userID roomID := hdeletes
    exact absurd rfl h

theorem any_findRoomMembers (db : Database) (roomID identityID : UUID) :
    (findRoomMembers db roomID).any (fun m => m.identityID = identityID) = isMember db roomID identityID := by
  rw [Bool.eq_iff_iff, isMember_iff, findRoomMembers, List.any_map, List.any_eq_true]
  simp [List.mem_insertionSort]

theorem not_readmits (hnot : ¬ (findRoomMembers db id).any (fun m => m.identityID = identityID) = true)
    (h : readmits start roomID (some id) identityID = true → isMember db roomID identityID = true) :
    readmits start roomID (some id) identityID = false := by
  rw [any_findRoomMembers] at hnot
  rw [← Bool.not_eq_true]
  intro hreadmits
  have hmember := h hreadmits
  obtain ⟨rfl, -⟩ := readmits_iff.1 hreadmits
  exact hnot hmember

theorem spares_next (hkept : Kept roomID start db) (hrows : OneRow start roomID)
    (huser : ownsNoOwner start roomID call.request.userID = true) (h : call.spares roomID start db) :
    (next sha256 tick db call).2.spares roomID start (next sha256 tick db call).1 := by
  obtain ⟨request, stage⟩ := call
  cases request with
  | joinRoomByHash userID identityID hash =>
    simp only [next, nextStage]
    fun_cases nextJoinByHash <;> try exact trivial
    · fun_cases grant <;> first | exact trivial | exact h
    · rename_i hfind
      intro hreadmits
      exact h (by rw [(Option.ite_none_left_eq_some.1 hfind).2]; exact hreadmits)
    · fun_cases checkJoin <;> try exact trivial
      rename_i hnot
      exact not_readmits hnot h
    · fun_cases execute <;> trivial
    · obtain hstage | ⟨_, hstage⟩ | ⟨_, _, hstage⟩ | ⟨_, hstage⟩ := nextReload_cases stage <;>
        rw [hstage] <;> first | exact trivial | exact h
  | joinRoomViaInviteLink userID identityID token =>
    simp only [next, nextStage]
    fun_cases nextJoinByLink <;> try exact trivial
    · fun_cases grant <;> first | exact trivial | exact h
    · rename_i hfind
      fun_cases checkLink <;> try exact trivial
      intro hreadmits
      exact h (by rw [(Option.ite_none_left_eq_some.1 hfind).2]; exact hreadmits)
    · fun_cases readRoom <;> first | exact trivial | exact h
    · fun_cases checkJoin <;> try exact trivial
      rename_i hnot
      exact not_readmits hnot h
    · fun_cases execute <;> trivial
    · obtain hstage | ⟨_, hstage⟩ | ⟨_, _, hstage⟩ | ⟨_, hstage⟩ := nextReload_cases stage <;>
        rw [hstage] <;> first | exact trivial | exact h
  | moderateRoomJoinRequest userID id reqID text =>
    simp only [next, nextStage]
    fun_cases nextModerate <;> try exact trivial
    · fun_cases grant <;> first | exact trivial | exact h
    · rename_i status hstatus
      fun_cases execute <;> try exact trivial
      rename_i hdb
      obtain rfl := Option.some.inj (Option.ite_none_left_eq_some.1 hdb).2
      -- the update leaves the requester
      intro happroved req hreq
      rw [moderateRoomJoinRequest, Table.get?_updateWhere, Option.map_eq_some_iff] at hreq
      obtain ⟨old, hold, rfl⟩ := hreq
      have hnot := h (by rw [hstatus, happroved]) old hold
      rw [← hnot]
      split <;> rfl
    · rename_i req hfind
      split
      · rename_i happroved
        exact h happroved req (Option.ite_none_left_eq_some.1 hfind).2
      · trivial
    · fun_cases execute <;> trivial
    · exact h
  | kickMember userID id targetID =>
    simp only [next, nextStage]
    fun_cases nextKick <;> try exact trivial
    · fun_cases grant <;> trivial
    · fun_cases readRoom <;> trivial
    · rename_i hok
      rintro rfl
      rw [← Bool.not_eq_true]
      intro hranked
      obtain ⟨err, herr⟩ := checkKick_ranked hkept hrows huser hranked
      cases herr.symm.trans hok
    · fun_cases execute <;> trivial
    · exact h
  | transferOwnership userID id targetID =>
    simp only [next, nextStage]
    fun_cases nextTransfer <;> try first | exact trivial | exact h
    · fun_cases readRoom <;> trivial
    · rename_i hok
      rintro rfl
      cases (checkTransfer_error hkept huser).symm.trans hok
    · fun_cases execute <;> try exact trivial
      split
      · exact h
      · trivial
    · split
      · trivial
      · exact h
  | leaveRoom userID id identityID =>
    simp only [next, nextStage]
    fun_cases nextLeave <;> try exact trivial
    · fun_cases grant <;> try exact trivial
      rename_i hbelongs
      rw [identityBelongsToUser, hkept.identities] at hbelongs
      obtain ⟨ident, hident, hof⟩ := (Option.any_eq_true _ _).1 hbelongs
      rw [Bool.and_eq_true] at hof
      exact (Option.any_eq_true _ _).2 ⟨ident, hident, hof.1⟩
    · fun_cases execute <;> trivial
    · exact h
  | updateMemberRole userID id targetID text | deleteRoom userID id => exact h
  | _ => trivial

theorem spares_begin {request : Request} (h : request.careful start roomID db = true) :
    (Call.begin request).spares roomID start db := by
  cases request with
  | updateMemberRole userID id targetID text =>
    rintro rfl
    simpa [Request.careful] using h
  | deleteRoom userID id =>
    rintro rfl
    simp [Request.careful] at h
  | joinRoomByHash userID identityID hash | joinRoomViaInviteLink userID identityID token =>
    intro hreadmits
    simpa [Request.careful, hreadmits] using h
  | moderateRoomJoinRequest userID id reqID text =>
    intro happroved req hreq
    simpa [Request.careful, happroved, hreq] using h
  | _ => trivial

theorem kept_perform {op : Operation} (hkept : Kept roomID start db) (hrows : OneRow start roomID)
    (huser : ownsNoOwner start roomID op.request.userID = true) (hok : Careful roomID start db op) :
    Kept roomID start (perform sha256 db op) := by
  have hnext : ∀ (tick : Tick) (s : Database) (call : Call),
      Kept roomID start s ∧ call.request = op.request ∧ call.spares roomID start s →
        Kept roomID start (next sha256 tick s call).1 ∧ (next sha256 tick s call).2.request = op.request ∧
          (next sha256 tick s call).2.spares roomID start (next sha256 tick s call).1 := by
    rintro tick s call ⟨hkept, hrequest, hspares⟩
    have huser : ownsNoOwner start roomID call.request.userID = true := by
      rw [hrequest]
      exact huser
    exact ⟨kept_next hkept (allowed_of_spares huser hspares), hrequest, spares_next hkept hrows huser hspares⟩
  exact (Pool.alone_invariant (I := fun s call => Kept roomID start s ∧ call.request = op.request ∧
    call.spares roomID start s) hnext ⟨hkept, rfl, spares_begin hok⟩ op.ticks).1

theorem perform_kick_ranked {ticks : List Tick} (hkept : Kept roomID start db) (hrows : OneRow start roomID)
    (huser : ownsNoOwner start roomID userID = true) (hranked : isRanked start roomID targetID = true) :
    perform sha256 db ⟨.kickMember userID roomID targetID, ticks⟩ = db := by
  have hnext : ∀ (tick : Tick) (s : Database) (call : Call),
      s = db ∧ call.request = .kickMember userID roomID targetID ∧ call.spares roomID start s →
        (next sha256 tick s call).1 = db ∧ (next sha256 tick s call).2.request = .kickMember userID roomID targetID ∧
          (next sha256 tick s call).2.spares roomID start (next sha256 tick s call).1 := by
    rintro tick s ⟨request, stage⟩ ⟨rfl, rfl, hspares⟩
    refine ⟨?_, rfl, spares_next hkept hrows huser hspares⟩
    generalize hdb : (next sha256 tick s ⟨.kickMember userID roomID targetID, stage⟩).1 = db'
    have heffect := next_effect sha256 tick s ⟨.kickMember userID roomID targetID, stage⟩
    rw [hdb] at heffect
    cases heffect with
    | none => rfl
    | kick =>
      have hnot := hspares rfl
      rw [hranked] at hnot
      cases hnot
  exact (Pool.alone_invariant (I := fun s call => s = db ∧ call.request = .kickMember userID roomID targetID ∧
    call.spares roomID start s) hnext ⟨rfl, rfl, trivial⟩ ticks).1

end Calls

/-- In any sequence of calls by users who own no owner of the room, and of which none gives a role to one who was the
owner or an admin, deletes the room or adds one of them again: the owners keep their rows and stay the only ones, and no
admin is kicked by another user. -/
theorem moderators_do_not_escalate (sha256 : String → String) (roomID : UUID) (db : Database) (ops : List Operation)
    (hroom : (db.rooms.get? roomID).isSome = true) (hrows : OneRow db roomID)
    (husers : ∀ op ∈ ops, ownsNoOwner db roomID op.request.userID = true)
    (hrun : Along (perform sha256) (Careful roomID db) db ops) :
    ownerRows db (exec (perform sha256) db ops) roomID = ownerRows db db roomID ∧
      (∀ identityID, isOwner (exec (perform sha256) db ops) roomID identityID = isOwner db roomID identityID) ∧
      Along (perform sha256) (SparesAdmins sha256 roomID db) db ops := by
  have hrun := Along.and (along_of_forall_mem fun op hop _ => husers op hop) hrun
  have hstep : ∀ s op, Kept roomID db s →
      ownsNoOwner db roomID op.request.userID = true ∧ Careful roomID db s op →
      Kept roomID db (perform sha256 s op) := fun s op hkept hok => kept_perform hkept hrows hok.1 hok.2
  have hkept := Along.invariant hstep (.refl hroom) hrun
  refine ⟨hkept.rows, fun identityID => ?_, ?_⟩
  · rw [Bool.eq_iff_iff]
    constructor
    · intro h
      obtain ⟨m, hm, rfl, hrole⟩ := isOwner_iff.1 h
      exact hkept.owner m hm hrole
    · intro h
      obtain ⟨m, hm, rfl, hrole⟩ := isOwner_iff.1 h
      have hmem : m ∈ ownerRows db db roomID := List.mem_filter.2 ⟨hm, h⟩
      rw [← hkept.rows] at hmem
      exact isOwner_iff.2 ⟨m, (List.mem_filter.1 hmem).1, rfl, hrole⟩
  · refine Along.imp_of_invariant hstep ?_ (.refl hroom) hrun
    rintro s ⟨request, ticks⟩ hkept ⟨huser, -⟩ userID targetID heq ⟨m, hm, hid, hrole⟩ - hmember
    obtain rfl : request = .kickMember userID roomID targetID := heq
    have huser : ownsNoOwner db roomID userID = true := huser
    have hranked : isRanked db roomID targetID = true := isRanked_iff.2 ⟨m, hm, hid, by rw [hrole]; rfl⟩
    rw [perform_kick_ranked hkept hrows huser hranked]
    exact hmember

def sampleRanks : List Member :=
  [sampleMember 1 .owner, sampleMember 2 .admin, sampleMember 3 .admin]

def sampleKicks : List Operation :=
  [sampleOperation (.kickMember (.ofByte 12) (.ofByte 7) (.ofByte 1)) 4,
    sampleOperation (.kickMember (.ofByte 12) (.ofByte 7) (.ofByte 3)) 4]

theorem kicks_refused :
    ownerRows (sampleDatabase sampleRanks) (exec (perform id) (sampleDatabase sampleRanks) sampleKicks) (.ofByte 7) =
        ownerRows (sampleDatabase sampleRanks) (sampleDatabase sampleRanks) (.ofByte 7) ∧
      (∀ identityID, isOwner (exec (perform id) (sampleDatabase sampleRanks) sampleKicks) (.ofByte 7) identityID =
        isOwner (sampleDatabase sampleRanks) (.ofByte 7) identityID) ∧
      Along (perform id) (SparesAdmins id (.ofByte 7) (sampleDatabase sampleRanks)) (sampleDatabase sampleRanks)
        sampleKicks :=
  moderators_do_not_escalate id (.ofByte 7) (sampleDatabase sampleRanks) sampleKicks (by decide) (by decide)
    (by decide) (by decide +kernel)

def sampleDemotions : List Operation :=
  [sampleOperation (.updateMemberRole (.ofByte 12) (.ofByte 7) (.ofByte 1) "member") 1,
    sampleOperation (.updateMemberRole (.ofByte 12) (.ofByte 7) (.ofByte 3) "member") 1] ++ sampleKicks

/-- The admin, who owns no owner, is left as the only member. -/
theorem owner_kicked_by_admin :
    (∀ op ∈ sampleDemotions, ownsNoOwner (sampleDatabase sampleRanks) (.ofByte 7) op.request.userID = true) ∧
      OneRow (sampleDatabase sampleRanks) (.ofByte 7) ∧
      (membersOf (exec (perform id) (sampleDatabase sampleRanks) sampleDemotions) (.ofByte 7)).map
        (fun m => (m.identityID, m.role)) = [(.ofByte 2, .admin)] ∧
      ¬ Along (perform id) (SparesAdmins id (.ofByte 7) (sampleDatabase sampleRanks)) (sampleDatabase sampleRanks)
        sampleDemotions := by
  have hkick :
      isMember (exec (perform id) (sampleDatabase sampleRanks) (sampleDemotions.take 3)) (.ofByte 7) (.ofByte 3) = true ∧
      isMember (exec (perform id) (sampleDatabase sampleRanks) sampleDemotions) (.ofByte 7) (.ofByte 3) = false →
      ¬ Along (perform id) (SparesAdmins id (.ofByte 7) (sampleDatabase sampleRanks)) (sampleDatabase sampleRanks)
        sampleDemotions := by
    rintro ⟨hmember, hkicked⟩ ⟨-, -, -, hlast, -⟩
    have hstays := hlast _ _ rfl ⟨sampleMember 3 .admin, by decide, rfl, rfl⟩ (by decide) hmember
    exact Bool.false_ne_true (hkicked.symm.trans hstays)
  exact And.imp_right (And.imp_right (And.imp_right hkick)) (by decide +kernel)

end GaiaCom.Rooms
