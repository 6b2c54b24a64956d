/-
Who is in a room: one row for each identity, and one owner.

The service checks and then acts, and the table has no constraint of its own. A list of members with duplicates, a
join that overlaps with another one of the same identity, an approval of a member's request, an owner who leaves or is
given another role, a join into an empty room and overlapping transfers all break it. In runs without these a room has
one row for each identity, and one owner except between the two updates of a transfer (`one_owner_kept`).
-/
import GaiaCom.Rooms.Effects

namespace GaiaCom.Rooms

open Lib Core GaiaCom.Store

/-! ## Rows and owners -/

/-- Each identity has at most one row in the room. -/
def OneRow (db : Database) (roomID : UUID) : Prop := ((membersOf db roomID).map Member.identityID).Nodup

def owners (members : List Member) : Nat := members.countP fun m => m.role = .owner

/-- The room has no members, or one of them is the owner. -/
def OneOwner (db : Database) (roomID : UUID) : Prop := membersOf db roomID = [] ∨ owners (membersOf db roomID) = 1

instance (db : Database) (roomID : UUID) : Decidable (OneRow db roomID) := inferInstanceAs (Decidable (List.Nodup _))

instance (db : Database) (roomID : UUID) : Decidable (OneOwner db roomID) := inferInstanceAs (Decidable (_ ∨ _))

def Call.transfers (roomID : UUID) : Call → Option (UUID × UUID)
  | ⟨.transferOwnership userID id _, .demoted actorID⟩ => if id = roomID then some (userID, actorID) else none
  | ⟨.transferOwnership userID id _, .restoring actorID _⟩ => if id = roomID then some (userID, actorID) else none
  | _ => none

def mover (roomID : UUID) (p : System) (n : Nat) : Option (UUID × UUID) := (p.calls.get? n).bind (Call.transfers roomID)

def settled (roomID : UUID) (p : System) : Bool := p.calls.rows.all fun r => r.2.transfers roomID = none

def isMember (db : Database) (roomID identityID : UUID) : Bool :=
  (membersOf db roomID).any fun m => m.identityID = identityID

def isOwner (db : Database) (roomID identityID : UUID) : Bool :=
  (membersOf db roomID).any fun m => m.identityID = identityID && m.role = .owner

/-! ## Calls in order -/

/-- The change of a role: by a transfer of the caller's that begins with the owner or restores them, or of a member
that is not the owner. -/
def RoleChange.orderly (c : RoleChange) (p : System) (tick : Tick) : Stage → Bool
  | .transferring _ => settled c.roomID p && isOwner p.shared c.roomID c.identityID && isOf p.shared c.userID c.identityID
  | .demoted _ => true
  | .restoring _ _ => !tick.fails
  | _ => settled c.roomID p && !isOwner p.shared c.roomID c.identityID

/-- The statement of a call leaves the room in order: between the updates of a transfer it is the transfer's, a room is
created with different identities, a new member is none yet and does not come into an empty room, and the owner
does not go before all others have gone. -/
def Call.orderly (roomID : UUID) (p : System) (tick : Tick) (call : Call) : Bool :=
  (call.creates.all fun ids => tick.id ≠ roomID || settled roomID p && decide ids.Nodup) &&
  (call.adds.all fun r => r.1 ≠ roomID ||
    settled roomID p && membersOf p.shared roomID ≠ [] && !isMember p.shared roomID r.2) &&
  (call.removes.all fun r => r.1 ≠ roomID ||
    settled roomID p && (!isOwner p.shared roomID r.2 || (membersOf p.shared roomID).all fun m => m.identityID = r.2)) &&
  call.setsRole.all fun c => c.roomID ≠ roomID || c.orderly p tick call.stage

def Orderly (roomID : UUID) (p : System) : Event → Prop
  | .start _ _ => True
  | .advance n tick => ∀ call ∈ p.calls.get? n, call.orderly roomID p tick = true

instance (roomID : UUID) (p : System) : DecidablePred (Orderly roomID p)
  | .start _ _ => .isTrue trivial
  | .advance n tick => inferInstanceAs (Decidable (∀ call ∈ p.calls.get? n, call.orderly roomID p tick = true))

/-! ## Transfers -/

section Transfers

variable {sha256 : String → String} {roomID : UUID} {p : System} {n : Nat} {tick : Tick} {call : Call}

theorem settled_iff : settled roomID p = true ↔ ∀ n, mover roomID p n = none := by
  simp only [settled, List.all_eq_true, decide_eq_true_eq, mover]
  constructor
  · intro h n
    cases hcall : p.calls.get? n with
    | none => rfl
    | some call => exact h (n, call) (Table.get?_eq_some.1 hcall)
  · rintro h ⟨n, call⟩ hmem
    have hnone := h n
    rw [Table.get?_eq_some.2 hmem] at hnone
    exact hnone

theorem mover_start (request : Request) (k : Nat) :
    mover roomID (step sha256 p (.start n request)) k = mover roomID p k := by
  have hbegin : (Call.begin request).transfers roomID = none := by cases request <;> rfl
  simp only [mover, step, Pool.step, Table.get?_insertOrIgnore]
  split
  · rename_i hk
    subst hk
    cases hcall : p.calls.get? k with
    | none => simpa using hbegin
    | some call => rfl
  · rfl

theorem mover_advance (sha256 : String → String) (roomID : UUID) (tick : Tick) (hcall : p.calls.get? n = some call)
    (k : Nat) :
    mover roomID (step sha256 p (.advance n tick)) k =
      if k = n then (next sha256 tick p.shared call).2.transfers roomID else mover roomID p k := by
  simp only [mover, step, Pool.step_advance hcall, Table.get?_put]
  split
  · rfl
  rfl

theorem transfers_next {db : Database} {t : UUID × UUID} (h : (next sha256 tick db call).2.transfers roomID = some t) :
    call.transfers roomID = some t ∨
      ∃ targetID, call = ⟨.transferOwnership t.1 roomID targetID, .transferring t.2⟩ := by
  obtain ⟨request, stage⟩ := call
  cases request with
  | transferOwnership userID id targetID =>
    simp only [next, nextStage] at h
    generalize hnext : (nextTransfer tick db userID id targetID stage).2 = result at h
    cases result with
    | demoted actorID | restoring actorID err =>
      revert hnext
      fun_cases nextTransfer <;> grind [execute, readRoom, Call.transfers]
    | _ => cases h
  | _ => cases h

end Transfers

/-! ## The invariant -/

/-- The rows of an identity are unique, and there is one owner unless a transfer is between its two updates; then there
is none, and the former owner is an admin. -/
structure Inv (roomID : UUID) (p : System) : Prop where
  referential : Referential p.shared
  rows : OneRow p.shared roomID
  single : ∀ n m, mover roomID p n ≠ none → mover roomID p m ≠ none → n = m
  owner : (∀ n, mover roomID p n = none) → OneOwner p.shared roomID
  moving : ∀ n userID actorID, mover roomID p n = some (userID, actorID) → membersOf p.shared roomID = [] ∨
    owners (membersOf p.shared roomID) = 0 ∧ isOf p.shared userID actorID = true ∧
      ∃ m ∈ membersOf p.shared roomID, m.identityID = actorID ∧ m.role = .admin

section Lists

variable {members : List Member} {roomID identityID : UUID} {role : Role}

theorem owners_eq_zero (h : ∀ m ∈ members, m.role ≠ .owner) : owners members = 0 := by
  rw [owners, List.countP_eq_zero]
  simpa using h

theorem owners_filter (h : ∀ m ∈ members, m.identityID = identityID → m.role ≠ .owner) :
    owners (members.filter fun m => m.identityID ≠ identityID) = owners members := by
  grind [owners, List.countP_filter, List.countP_congr]

theorem owners_setRole_of_ne (hrole : role ≠ .owner)
    (h : ∀ m ∈ members, m.identityID = identityID → m.role ≠ .owner) :
    owners (members.map (setRole roomID identityID role)) = owners members := by
  rw [owners, owners, List.countP_map]
  refine List.countP_congr fun m hm => ?_
  simp only [Function.comp_apply, setRole_role, decide_eq_true_eq]
  split
  · rename_i hid
    exact iff_of_false hrole (h m hm hid.2)
  · exact Iff.rfl

theorem owners_demote (hroom : ∀ m ∈ members, m.roomID = roomID) (hone : owners members ≤ 1)
    (howner : ∃ m ∈ members, m.identityID = identityID ∧ m.role = .owner) (hrole : role ≠ .owner) :
    owners (members.map (setRole roomID identityID role)) = 0 := by
  refine owners_eq_zero fun m' hm' hrole' => ?_
  obtain ⟨m, hm, rfl⟩ := List.mem_map.1 hm'
  rw [setRole_role] at hrole'
  split at hrole'
  · exact hrole hrole'
  rename_i hother
  obtain ⟨o, ho, hid, horole⟩ := howner
  have hne : m ≠ o := by
    grind
  -- two owners
  have htwo : 2 ≤ owners members := by
    have hsub : [m, o].Subperm members := by
      refine List.subperm_of_subset (by simpa using hne) ?_
      simp [hm, ho]
    have hle := hsub.countP_le fun m => decide (m.role = .owner)
    simpa [owners, hrole', horole] using hle
  omega

theorem owners_promote (hroom : ∀ m ∈ members, m.roomID = roomID) (hzero : owners members = 0)
    (hmember : ∃ m ∈ members, m.identityID = identityID) (hrows : (members.map Member.identityID).Nodup) :
    owners (members.map (setRole roomID identityID .owner)) = 1 := by
  have hcount : owners (members.map (setRole roomID identityID .owner)) =
      (members.map Member.identityID).count identityID := by
    rw [owners, List.countP_map, List.count, List.countP_map]
    refine List.countP_congr fun m hm => ?_
    have hnot : m.role ≠ .owner := by
      have := List.countP_eq_zero.1 hzero m hm
      simpa using this
    simp [setRole_role, hroom m hm, hnot]
  grind

theorem map_identityID_setRole :
    (members.map (setRole roomID identityID role)).map Member.identityID = members.map Member.identityID := by
  grind [List.map_congr_left]

end Lists

section Steps

variable {sha256 : String → String} {roomID : UUID} {p p' : System} {n : Nat} {tick : Tick} {call : Call}

theorem Inv.keep (h : Inv roomID p) (href : Referential p'.shared)
    (hidentities : p'.shared.identities = p.shared.identities)
    (hmembers : membersOf p'.shared roomID = membersOf p.shared roomID)
    (hmover : ∀ n, mover roomID p' n = mover roomID p n) : Inv roomID p' where
  referential := href
  rows := by
    grind [OneRow, h.rows]
  single n m := by
    rw [hmover, hmover]
    exact h.single n m
  owner hsettled := by
    unfold OneOwner
    rw [hmembers]
    exact h.owner fun n => (hmover n).symm.trans (hsettled n)
  moving n userID actorID := by
    unfold isOf
    rw [hmover, hmembers, hidentities]
    exact h.moving n userID actorID

theorem Inv.others (h : Inv roomID p) {m : UUID × UUID} (hthis : mover roomID p n = some m) {k : Nat} (hk : k ≠ n) :
    mover roomID p k = none := by
  by_contra hne
  refine hk (h.single k n hne ?_)
  rw [hthis]
  exact Option.some_ne_none m

theorem Inv.of_settled (href : Referential p'.shared) (hrows : OneRow p'.shared roomID)
    (howner : OneOwner p'.shared roomID) (hmover : ∀ n, mover roomID p' n = none) : Inv roomID p' where
  referential := href
  rows := hrows
  single n _ hn := absurd (hmover n) hn
  owner _ := howner
  moving n userID actorID hn := by
    rw [hmover n] at hn
    cases hn

variable {db : Database}

theorem room_of_mem {m : Member} (h : m ∈ membersOf db roomID) : m.roomID = roomID := (mem_membersOf.1 h).2

variable {identityID : UUID}

theorem isOwner_iff : isOwner db roomID identityID = true ↔
    ∃ m ∈ membersOf db roomID, m.identityID = identityID ∧ m.role = .owner := by
  simp [isOwner]

variable {userID : UUID}

theorem userIsRoomAdmin_of_mem {m : Member} (hm : m ∈ membersOf db roomID)
    (hof : isOf db userID m.identityID = true) (hrole : m.role.isAdmin = true) : userIsRoomAdmin db userID roomID = true :=
  List.any_eq_true.2 ⟨m, hm, by rw [hof, hrole]; rfl⟩

theorem countP_eq_one (hrows : OneRow db roomID) :
    (membersOf db roomID).countP (fun m => m.identityID = identityID) = 1 ↔
      ∃ m ∈ membersOf db roomID, m.identityID = identityID := by
  have hcount : (membersOf db roomID).countP (fun m => m.identityID = identityID) =
      ((membersOf db roomID).map Member.identityID).count identityID := by
    rw [List.count, List.countP_map]
    exact List.countP_congr fun m _ => by simp
  rw [hcount]
  constructor
  · intro hone
    have hpos : 0 < ((membersOf db roomID).map Member.identityID).count identityID := by omega
    grind [List.count_pos_iff]
  · rintro ⟨m, hm, rfl⟩
    exact List.count_eq_one_of_mem hrows (List.mem_map_of_mem hm)

theorem membersOf_updateRole (roomID : UUID) (db : Database) (userID identityID : UUID) (role : Role) :
    membersOf (updateRoomMemberRoleForUser db userID roomID identityID role).1 roomID =
      if userIsRoomAdmin db userID roomID then (membersOf db roomID).map (setRole roomID identityID role)
      else membersOf db roomID := by
  grind [updateRoomMemberRoleForUser_eq, membersOf_map_setRole]

variable {role : Role}

theorem oneRow_updateRole (h : OneRow db roomID) :
    OneRow (updateRoomMemberRoleForUser db userID roomID identityID role).1 roomID := by
  grind [OneRow, membersOf_updateRole]

theorem shared_advance (sha256 : String → String) (tick : Tick) (hcall : p.calls.get? n = some call) :
    (step sha256 p (.advance n tick)).shared = (next sha256 tick p.shared call).1 := by
  rw [step, Pool.step_advance hcall]

theorem mover_same (hcall : p.calls.get? n = some call)
    (htransfers : (next sha256 tick p.shared call).2.transfers roomID = call.transfers roomID) (k : Nat) :
    mover roomID (step sha256 p (.advance n tick)) k = mover roomID p k := by
  rw [mover_advance sha256 roomID tick hcall]
  split
  · rename_i hk
    rw [hk, mover, hcall, Option.bind_some, htransfers]
  · rfl

theorem Inv.advance (h : Inv roomID p) (hcall : p.calls.get? n = some call)
    (hmembers : membersOf (next sha256 tick p.shared call).1 roomID = membersOf p.shared roomID)
    (htransfers : (next sha256 tick p.shared call).2.transfers roomID = call.transfers roomID) :
    Inv roomID (step sha256 p (.advance n tick)) := by
  have heffect := next_effect sha256 tick p.shared call
  rw [← shared_advance sha256 tick hcall] at hmembers heffect
  exact h.keep (heffect.referential h.referential) heffect.identities hmembers (mover_same hcall htransfers)

/-- A step after which nothing is transferred. -/
theorem Inv.advance_settled (h : Inv roomID p) (hcall : p.calls.get? n = some call)
    (hothers : ∀ k, k ≠ n → mover roomID p k = none) (hnone : (next sha256 tick p.shared call).2.transfers roomID = none)
    (hrows : OneRow (next sha256 tick p.shared call).1 roomID)
    (howner : OneOwner (next sha256 tick p.shared call).1 roomID) : Inv roomID (step sha256 p (.advance n tick)) := by
  have href := (next_effect sha256 tick p.shared call).referential h.referential
  rw [← shared_advance sha256 tick hcall] at href hrows howner
  refine .of_settled href hrows howner fun k => ?_
  rw [mover_advance sha256 roomID tick hcall]
  split
  · exact hnone
  · rename_i hk
    exact hothers k hk

variable {actorID targetID : UUID}

theorem inv_demote (h : Inv roomID p)
    (hcall : p.calls.get? n = some ⟨.transferOwnership userID roomID targetID, .transferring actorID⟩)
    (hok : Call.orderly roomID p tick ⟨.transferOwnership userID roomID targetID, .transferring actorID⟩ = true) :
    Inv roomID (step sha256 p (.advance n tick)) := by
  simp only [Call.orderly, Call.creates, Call.adds, Call.removes, Call.setsRole, RoleChange.orderly, Option.all_none,
    Option.all_some, Bool.true_and, ne_eq, not_true_eq_false, decide_false, Bool.false_or, Bool.and_eq_true] at hok
  obtain ⟨⟨hsettled, howner⟩, hof⟩ := hok
  rw [settled_iff] at hsettled
  rw [isOwner_iff] at howner
  obtain ⟨m, hm, rfl, hrole⟩ := howner
  have hadmin : userIsRoomAdmin p.shared userID roomID = true :=
    userIsRoomAdmin_of_mem hm hof (by rw [hrole]; rfl)
  have hone := (countP_eq_one h.rows).2 ⟨m, hm, rfl⟩
  cases hfails : tick.fails with
  | true => refine h.advance hcall ?_ ?_ <;> simp [next, nextStage, nextTransfer, execute, hfails, Call.transfers]
  | false =>
    have heffect := next_effect sha256 tick p.shared
      ⟨.transferOwnership userID roomID targetID, .transferring m.identityID⟩
    have hmover := mover_advance sha256 roomID tick hcall
    have hnext : next sha256 tick p.shared ⟨.transferOwnership userID roomID targetID, .transferring m.identityID⟩ =
        ((updateRoomMemberRoleForUser p.shared userID roomID m.identityID .admin).1,
          ⟨.transferOwnership userID roomID targetID, .demoted m.identityID⟩) := by
      simp only [next, nextStage, nextTransfer, execute, hfails, Bool.false_eq_true, if_false,
        updateRoomMemberRoleForUser, hadmin, if_true, hone, decide_true]
    have hshared := shared_advance sha256 tick hcall
    rw [hnext] at hshared hmover heffect
    rw [← hshared] at heffect
    have hmembers := membersOf_updateRole roomID p.shared userID m.identityID .admin
    rw [if_pos hadmin, ← hshared] at hmembers
    have hmoved : ∀ k, mover roomID (step sha256 p (.advance n tick)) k =
        if k = n then some (userID, m.identityID) else none := by
      grind [Call.transfers]
    have hle : owners (membersOf p.shared roomID) ≤ 1 := by
      rcases h.owner hsettled with hnil | howners
      · rw [hnil]
        exact Nat.zero_le _
      · exact howners.le
    constructor
    · exact heffect.referential h.referential
    · rw [hshared]
      exact oneRow_updateRole h.rows
    · grind
    · intro hnone
      have := hnone n
      grind
    · intro k user actor hk
      rw [hmoved] at hk
      split at hk
      · obtain ⟨rfl, rfl⟩ := Prod.mk.inj (Option.some.inj hk)
        rw [hmembers]
        refine .inr ⟨owners_demote (fun _ => room_of_mem) hle ⟨m, hm, rfl, hrole⟩ (by decide), ?_,
          setRole roomID m.identityID .admin m, List.mem_map_of_mem hm, setRole_identityID m, ?_⟩
        · grind [isOf, heffect.identities]
        · rw [setRole_role, if_pos ⟨room_of_mem hm, rfl⟩]
      · cases hk

theorem promoted (hrows : OneRow db roomID)
    (hmoving : membersOf db roomID = [] ∨ owners (membersOf db roomID) = 0 ∧ isOf db userID actorID = true ∧
      ∃ m ∈ membersOf db roomID, m.identityID = actorID ∧ m.role = .admin)
    (hmember : membersOf db roomID = [] ∨ ∃ m ∈ membersOf db roomID, m.identityID = identityID) :
    OneOwner (updateRoomMemberRoleForUser db userID roomID identityID .owner).1 roomID := by
  unfold OneOwner
  rw [membersOf_updateRole]
  rcases hmoving with hnil | ⟨hzero, hof, m, hm, rfl, hrole⟩
  · grind
  · rw [if_pos (userIsRoomAdmin_of_mem hm hof (by rw [hrole]; rfl))]
    rcases hmember with hnil | hmember
    · rw [hnil] at hm
      cases hm
    · exact .inr (owners_promote (fun _ => room_of_mem) hzero hmember hrows)

theorem inv_owner (h : Inv roomID p) (hcall : p.calls.get? n = some call)
    (htransfers : call.transfers roomID = some (userID, actorID))
    (hnone : (next sha256 tick p.shared call).2.transfers roomID = none)
    (hdb : (next sha256 tick p.shared call).1 = (updateRoomMemberRoleForUser p.shared userID roomID identityID .owner).1)
    (hmember : membersOf p.shared roomID = [] ∨ ∃ m ∈ membersOf p.shared roomID, m.identityID = identityID) :
    Inv roomID (step sha256 p (.advance n tick)) := by
  have hthis : mover roomID p n = some (userID, actorID) := by rw [mover, hcall, Option.bind_some, htransfers]
  refine h.advance_settled hcall (fun k hk => h.others hthis hk) hnone ?_ ?_
  · rw [hdb]
    exact oneRow_updateRole h.rows
  · rw [hdb]
    exact promoted h.rows (h.moving n userID actorID hthis) hmember

theorem inv_promote (h : Inv roomID p)
    (hcall : p.calls.get? n = some ⟨.transferOwnership userID roomID targetID, .demoted actorID⟩) :
    Inv roomID (step sha256 p (.advance n tick)) := by
  cases hfails : tick.fails with
  | true => refine h.advance hcall ?_ ?_ <;> simp [next, nextStage, nextTransfer, hfails, Call.transfers]
  | false =>
    have hdb : (next sha256 tick p.shared ⟨.transferOwnership userID roomID targetID, .demoted actorID⟩).1 =
        (updateRoomMemberRoleForUser p.shared userID roomID targetID .owner).1 := by
      simp only [next, nextStage, nextTransfer, hfails, Bool.false_eq_true, if_false]
    cases hone : (updateRoomMemberRoleForUser p.shared userID roomID targetID .owner).2 with
    | true =>
      refine inv_owner h hcall (if_pos rfl) (by simp [next, nextStage, nextTransfer, hfails, hone, Call.transfers]) hdb ?_
      unfold updateRoomMemberRoleForUser at hone
      split at hone
      · exact .inr ((countP_eq_one h.rows).1 (of_decide_eq_true hone))
      cases hone
    | false =>
      refine h.advance hcall ?_ (by simp [next, nextStage, nextTransfer, hfails, hone, Call.transfers])
      rw [hdb, membersOf_updateRole]
      split
      · rename_i hadmin
        -- the target is no member
        have hnone : ∀ m ∈ membersOf p.shared roomID, m.identityID ≠ targetID := by
          intro m hm hid
          rw [updateRoomMemberRoleForUser, if_pos hadmin] at hone
          exact of_decide_eq_false hone ((countP_eq_one h.rows).2 ⟨m, hm, hid⟩)
        calc (membersOf p.shared roomID).map (setRole roomID targetID .owner)
            = (membersOf p.shared roomID).map id := List.map_congr_left fun m hm => by simp [setRole, hnone m hm]
          _ = membersOf p.shared roomID := List.map_id _
      · rfl

theorem inv_restore {err : RoomError} (h : Inv roomID p)
    (hcall : p.calls.get? n = some ⟨.transferOwnership userID roomID targetID, .restoring actorID err⟩)
    (hok : Call.orderly roomID p tick ⟨.transferOwnership userID roomID targetID, .restoring actorID err⟩ = true) :
    Inv roomID (step sha256 p (.advance n tick)) := by
  have hfails : tick.fails = false := by
    grind [Call.orderly, Call.setsRole, RoleChange.orderly]
  have hmoving := h.moving n userID actorID (by simp [mover, hcall, Call.transfers])
  have hdb : (next sha256 tick p.shared ⟨.transferOwnership userID roomID targetID, .restoring actorID err⟩).1 =
      (updateRoomMemberRoleForUser p.shared userID roomID actorID .owner).1 := by
    simp only [next, nextStage, nextTransfer, hfails, Bool.false_eq_true, if_false]
  refine inv_owner h hcall (if_pos rfl) rfl hdb (hmoving.imp id ?_)
  grind

theorem isMember_iff : isMember db roomID identityID = true ↔ ∃ m ∈ membersOf db roomID, m.identityID = identityID := by
  simp [isMember]

theorem newRows_inOrder (roomID : UUID) (joinedAt : String) {ids : List UUID} (hids : ids.Nodup) :
    ((newRows roomID joinedAt ids).map Member.identityID).Nodup ∧
      (newRows roomID joinedAt ids = [] ∨ owners (newRows roomID joinedAt ids) = 1) := by
  constructor
  · have hsame : (newRows roomID joinedAt ids).map Member.identityID = ids := by
      simp [newRows, newMembers, Function.comp_def]
    rw [hsame]
    exact hids
  · cases ids with
    | nil => exact .inl rfl
    | cons id ids =>
      right
      have hcount : owners (newRows roomID joinedAt (id :: ids)) = (id :: ids).count id := by
        rw [owners, newRows, newMembers, List.countP_map, List.countP_map, List.count]
        refine List.countP_congr fun id' _ => ?_
        simp only [Function.comp_apply, List.headD_cons, decide_eq_true_eq, beq_iff_eq]
        grind
      grind

theorem parseRole_ne_owner {text : String} (h : parseRole text = some role) : role ≠ .owner := by
  grind [parseRole]

theorem setsRole_other
    (hsets : call.setsRole = some ⟨userID, roomID, targetID, role⟩) (hnot : call.transfers roomID = none)
    (hbegin : ∀ userID targetID actorID, call ≠ ⟨.transferOwnership userID roomID targetID, .transferring actorID⟩) :
    ∃ text, parseRole text = some role ∧ call = ⟨.updateMemberRole userID roomID targetID text, .started⟩ := by
  unfold Call.setsRole at hsets
  grind [Option.map_eq_some_iff, Call.transfers]

theorem inv_other (h : Inv roomID p) (hcall : p.calls.get? n = some call) (hok : call.orderly roomID p tick = true)
    (hnot : call.transfers roomID = none)
    (hbegin : ∀ userID targetID actorID, call ≠ ⟨.transferOwnership userID roomID targetID, .transferring actorID⟩) :
    Inv roomID (step sha256 p (.advance n tick)) := by
  have heffect := next_effect sha256 tick p.shared call
  have hnone : (next sha256 tick p.shared call).2.transfers roomID = none := by
    by_contra hne
    obtain ⟨⟨userID, actorID⟩, ht⟩ := Option.ne_none_iff_exists'.1 hne
    grind [transfers_next]
  have hsettled : settled roomID p = true → OneRow (next sha256 tick p.shared call).1 roomID →
      OneOwner (next sha256 tick p.shared call).1 roomID → Inv roomID (step sha256 p (.advance n tick)) :=
    fun hsettled => h.advance_settled hcall (fun k _ => settled_iff.1 hsettled k) hnone
  simp only [Call.orderly, Bool.and_eq_true] at hok
  obtain ⟨⟨⟨hcreate, hadd⟩, hremove⟩, hrole⟩ := hok
  cases heffect.room roomID with
  | same hmembers => exact h.advance hcall hmembers (hnone.trans hnot.symm)
  | @create userID req ids hreq hids hid hfree hmembers =>
    rw [hreq, Call.creates, hids, Option.all_some, Bool.or_eq_true, decide_eq_true_eq, Bool.and_eq_true,
      decide_eq_true_eq] at hcreate
    obtain ⟨hset, hnodup⟩ := hcreate.resolve_left (not_not.2 hid)
    -- the id is new, so no row refers to it yet
    have hnil : membersOf p.shared roomID = [] := by
      refine List.filter_eq_nil_iff.2 fun m hm hroom => ?_
      have hsome := h.referential.room m hm
      rw [of_decide_eq_true hroom, hfree] at hsome
      cases hsome
    rw [hnil, List.nil_append] at hmembers
    obtain ⟨hrows, howner⟩ := newRows_inOrder roomID (formatTime tick.now) hnodup
    grind [OneRow, OneOwner]
  | @add identityID hadds hmembers =>
    rw [hadds, Option.all_some, Bool.or_eq_true, decide_eq_true_eq] at hadd
    have hcond := hadd.resolve_left (not_not.2 rfl)
    simp only [Bool.and_eq_true, decide_eq_true_eq, Bool.not_eq_true', ← Bool.not_eq_true, isMember_iff] at hcond
    obtain ⟨⟨hset, hne⟩, hnew⟩ := hcond
    refine hsettled hset ?_ ?_
    · rw [OneRow, hmembers, List.map_append, List.nodup_append]
      refine ⟨h.rows, List.nodup_singleton _, ?_⟩
      rintro a ha b hb rfl
      obtain ⟨m, hm, hsame⟩ := List.mem_map.1 ha
      exact hnew ⟨m, hm, hsame.trans (List.mem_singleton.1 hb)⟩
    · rw [OneOwner, hmembers]
      right
      have hone := (h.owner (settled_iff.1 hset)).resolve_left hne
      grind [owners]
  | @remove identityID hremoves hmembers =>
    rw [hremoves, Option.all_some, Bool.or_eq_true, decide_eq_true_eq] at hremove
    have hcond := hremove.resolve_left (not_not.2 rfl)
    simp only [Bool.and_eq_true, Bool.or_eq_true, Bool.not_eq_true', ← Bool.not_eq_true, isOwner_iff,
      List.all_eq_true, decide_eq_true_eq] at hcond
    obtain ⟨hset, hcond⟩ := hcond
    refine hsettled hset ?_ ?_
    · rw [OneRow, hmembers]
      exact h.rows.sublist (List.filter_sublist.map _)
    · rw [OneOwner, hmembers]
      rcases hcond with hnot | hlast
      · rw [owners_filter fun m hm hsame howner => hnot ⟨m, hm, hsame, howner⟩]
        refine (h.owner (settled_iff.1 hset)).imp_left fun hnil => ?_
        rw [hnil]
        rfl
      grind [List.filter_eq_nil_iff]
  | @setRole userID targetID role hsets hmembers =>
    obtain ⟨text, hparse, hreq⟩ := setsRole_other hsets hnot hbegin
    rw [hsets, Option.all_some, Bool.or_eq_true, decide_eq_true_eq] at hrole
    have hcond := hrole.resolve_left (not_not.2 rfl)
    rw [hreq] at hcond
    simp only [RoleChange.orderly, Bool.and_eq_true, Bool.not_eq_true', ← Bool.not_eq_true, isOwner_iff] at hcond
    obtain ⟨hset, howner⟩ := hcond
    refine hsettled hset ?_ ?_
    · rw [OneRow, hmembers, map_identityID_setRole]
      exact h.rows
    · rw [OneOwner, hmembers, List.map_eq_nil_iff,
        owners_setRole_of_ne (parseRole_ne_owner hparse) fun m hm hsame hrole => howner ⟨m, hm, hsame, hrole⟩]
      exact h.owner (settled_iff.1 hset)
  | delete _ hmembers =>
    have hmover := mover_same hcall (hnone.trans hnot.symm)
    have href := heffect.referential h.referential
    rw [← shared_advance sha256 tick hcall] at href hmembers
    constructor
    · exact href
    · grind [OneRow]
    · grind [h.single]
    · grind [OneOwner]
    grind

theorem inv_step {e : Event} (h : Inv roomID p) (hok : Orderly roomID p e) : Inv roomID (step sha256 p e) := by
  refine Pool.step_cases h (fun n request _ => h.keep h.referential rfl rfl (mover_start request)) ?_
  rintro n tick call rfl hcall
  have hcond := hok call hcall
  change Inv roomID (step sha256 p _)
  by_cases hbegin : ∃ userID targetID actorID, call = ⟨.transferOwnership userID roomID targetID, .transferring actorID⟩
  · grind [inv_demote]
  · cases ht : call.transfers roomID with
    | none => grind [inv_other]
    | some t =>
      unfold Call.transfers at ht
      split at ht
      · rename_i userID id targetID actorID
        obtain ⟨rfl, -⟩ := Option.ite_none_right_eq_some.1 ht
        exact inv_promote h hcall
      · rename_i userID id targetID actorID err
        obtain ⟨rfl, -⟩ := Option.ite_none_right_eq_some.1 ht
        exact inv_restore h hcall hcond
      · cases ht

end Steps

/-- Whatever calls run side by side, if the statements of each leave the room in order then every identity has at most
one row in the room, and a room with members has one owner, but for the moment between the two updates of a transfer of
it. -/
theorem one_owner_kept (sha256 : String → String) (roomID : UUID) (db : Database) (es : List Event)
    (href : Referential db) (hrows : OneRow db roomID) (howner : OneOwner db roomID)
    (hrun : Along (step sha256) (Orderly roomID) (fresh db) es) :
    OneRow (exec (step sha256) (fresh db) es).shared roomID ∧
      (OneOwner (exec (step sha256) (fresh db) es).shared roomID ∨
        ∃ n call, (exec (step sha256) (fresh db) es).calls.get? n = some call ∧ call.transfers roomID ≠ none) := by
  have hinit : Inv roomID (fresh db) := .of_settled href hrows howner fun _ => rfl
  have hinv := Along.invariant (P := Inv roomID) (fun _ _ h hok => inv_step h hok) hinit hrun
  refine ⟨hinv.rows, ?_⟩
  by_cases hmoving : ∀ n, mover roomID (exec (step sha256) (fresh db) es) n = none
  · exact .inl (hinv.owner hmoving)
  · rw [not_forall] at hmoving
    obtain ⟨n, hn⟩ := hmoving
    unfold mover at hn
    cases hcall : (exec (step sha256) (fresh db) es).calls.get? n <;> grind

def sampleMembers : List Member := [sampleMember 1 .owner, sampleMember 2 .member]

theorem sample_referential : Referential (sampleDatabase sampleMembers) := by
  constructor
  · decide
  · decide

def sampleInOrder : List Event :=
  sampleSteps 1 (.joinRoomByHash (.ofByte 13) (.ofByte 3) "h") 4 ++
    sampleSteps 2 (.transferOwnership (.ofByte 11) (.ofByte 7) (.ofByte 2)) 4 ++
    sampleSteps 3 (.leaveRoom (.ofByte 11) (.ofByte 7) (.ofByte 1)) 2

theorem ownership_handed_over :
    (membersOf (exec (step id) (fresh (sampleDatabase sampleMembers)) sampleInOrder).shared (.ofByte 7)).map
        (fun m => (m.identityID, m.role)) = [(.ofByte 2, .owner), (.ofByte 3, .member)] ∧
      OneRow (exec (step id) (fresh (sampleDatabase sampleMembers)) sampleInOrder).shared (.ofByte 7) ∧
      (OneOwner (exec (step id) (fresh (sampleDatabase sampleMembers)) sampleInOrder).shared (.ofByte 7) ∨
        ∃ n call, (exec (step id) (fresh (sampleDatabase sampleMembers)) sampleInOrder).calls.get? n = some call ∧
          call.transfers (.ofByte 7) ≠ none) := by
  refine And.imp_right (fun hrun =>
    one_owner_kept id (.ofByte 7) (sampleDatabase sampleMembers) sampleInOrder sample_referential (by decide)
    (by decide) hrun) ?_
  decide +kernel

/-- The owner leaves a room with another member, which then has no owner. And a room can be created with the same
identity twice, both of its rows being the owner's. -/
theorem owner_gone_and_doubled :
    OneOwner (sampleDatabase sampleMembers) (.ofByte 7) ∧
      ¬ OneOwner (exec (step id) (fresh (sampleDatabase sampleMembers))
        (sampleSteps 1 (.leaveRoom (.ofByte 11) (.ofByte 7) (.ofByte 1)) 2)).shared (.ofByte 7) ∧
      membersOf (sampleDatabase sampleMembers) (.ofByte 8) = [] ∧
      ¬ OneRow (exec (step id) (fresh (sampleDatabase sampleMembers))
        (sampleSteps 1 (.createRoom (.ofByte 11)
          ⟨"s", true, "", "", [(UUID.ofByte 1).text, (UUID.ofByte 1).text]⟩) 2)).shared (.ofByte 8) := by
  decide +kernel

end GaiaCom.Rooms
