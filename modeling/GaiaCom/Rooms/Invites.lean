/-
Invite links and the calls that join by them, side by side.

`JoinRoomViaInviteLink` reads the link, adds the member and counts the use in three statements. Calls that overlap all
read the same count, a call that takes its time adds its member after the expiry, and a use whose statement fails is not
counted. If a call only passes the check while there are uses left for it and for those under way, adds its member
in time and counts it, the link is bounded (`invite_links_bounded`).
-/
import GaiaCom.Rooms.Effects

namespace GaiaCom.Rooms

open Lib Core GaiaCom.Store

/-! ## Uses of a link -/

def Call.underway (token : String) : Call → Bool
  | ⟨.joinRoomViaInviteLink _ _ t, .invited _⟩ => t = token
  | ⟨.joinRoomViaInviteLink _ _ t, .read _ _⟩ => t = token
  | ⟨.joinRoomViaInviteLink _ _ t, .joining _⟩ => t = token
  | ⟨.joinRoomViaInviteLink _ _ t, .counting _⟩ => t = token
  | _ => false

def Call.uncounted (token : String) : Call → Bool
  | ⟨.joinRoomViaInviteLink _ _ t, .counting _⟩ => t = token
  | _ => false

def Call.joins (token : String) (tick : Tick) (db : Database) : Call → Option (UUID × Nat)
  | ⟨.joinRoomViaInviteLink _ identityID t, .joining roomID⟩ =>
    if t = token ∧ tick.fails = false ∧ (addRoomMember db tick.now roomID identityID .member).isSome then
      some (identityID, tick.now)
    else none
  | _ => none

/-- The calls and the database, with the identities that were added through the link and when. -/
structure Tally where
  system : System
  added : List (UUID × Nat)

def addition (token : String) (p : System) : Event → Option (UUID × Nat)
  | .start _ _ => none
  | .advance n tick => (p.calls.get? n).bind fun call => call.joins token tick p.shared

def tally (sha256 : String → String) (token : String) (s : Tally) (e : Event) : Tally where
  system := step sha256 s.system e
  added := s.added ++ (addition token s.system e).toList

def callsUnderway (token : String) (p : System) : Nat := p.calls.countWhere fun _ call => call.underway token

def usesUncounted (token : String) (p : System) : Nat := p.calls.countWhere fun _ call => call.uncounted token

/-- A call passes the check only if there are uses left for it and for those under way, adds its member before the
expiry and counts it. The room is not deleted. -/
def Call.inTurn (token : String) (p : System) (tick : Tick) : Call → Bool
  | ⟨.joinRoomViaInviteLink _ _ t, .authorized⟩ => t ≠ token || (p.shared.inviteLinks.get? token).all fun link =>
    link.maxUses ≤ link.uses || link.uses + (callsUnderway token p : Int) < link.maxUses
  | ⟨.joinRoomViaInviteLink _ _ t, .joining _⟩ => t ≠ token || (p.shared.inviteLinks.get? token).all fun link =>
    tick.now ≤ parseTime link.expiresAt
  | ⟨.joinRoomViaInviteLink _ _ t, .counting _⟩ => t ≠ token || !tick.fails
  | ⟨.deleteRoom _ id, .authorized⟩ => (p.shared.inviteLinks.get? token).all fun link => link.roomID ≠ id
  | _ => true

def InTurn (token : String) (s : Tally) : Event → Prop
  | .start _ _ => True
  | .advance n tick => ∀ call ∈ s.system.calls.get? n, call.inTurn token s.system tick = true

instance (token : String) (s : Tally) : DecidablePred (InTurn token s)
  | .start _ _ => .isTrue trivial
  | .advance n tick =>
    inferInstanceAs (Decidable (∀ call ∈ s.system.calls.get? n, call.inTurn token s.system tick = true))

/-! ## What a step is for the link -/

/-- What the step of a call is for a link: nothing, its check, the insert or the count. -/
inductive LinkStep (token : String) (tick : Tick) (p : System) (link : InviteLink) (call : Call) (db' : Database)
    (call' : Call) : Prop where
  | idle (hlink : db'.inviteLinks.get? token = some link) (hjoins : call.joins token tick p.shared = none)
      (huncounted : call'.uncounted token = call.uncounted token)
      (hunderway : call'.underway token = true → call.underway token = true)
  | check (hlink : db'.inviteLinks.get? token = some link) (hjoins : call.joins token tick p.shared = none)
      (huncounted : call'.uncounted token = call.uncounted token) (hleft : link.uses + callsUnderway token p < link.maxUses)
  | insert {identityID : UUID} (hlink : db'.inviteLinks.get? token = some link)
      (hjoins : call.joins token tick p.shared = some (identityID, tick.now))
      (htime : tick.now ≤ parseTime link.expiresAt) (hbefore : call.uncounted token = false)
      (hafter : call'.uncounted token = true) (hunderway : call.underway token = true)
  | count (hlink : db'.inviteLinks.get? token = some { link with uses := link.uses + 1 })
      (hjoins : call.joins token tick p.shared = none) (hbefore : call.uncounted token = true)
      (hafter : call'.uncounted token = false) (hunderway : call.underway token = true)
      (hend : call'.underway token = false)

section Steps

variable {sha256 : String → String} {token : String} {tick : Tick} {p : System} {link : InviteLink} {call : Call}
  {db db' : Database}

theorem LinkStep.over {call' : Call} (hlink : db'.inviteLinks.get? token = some link)
    (hjoins : call.joins token tick p.shared = none) (huncounted : call'.uncounted token = call.uncounted token)
    (hover : call'.underway token = false) : LinkStep token tick p link call db' call' := by
  grind [LinkStep]

theorem Effect.inviteLinks (h : Effect tick db call db') (hlink : db.inviteLinks.get? token = some link)
    (hdeletes : ∀ userID, call ≠ ⟨.deleteRoom userID link.roomID, .authorized⟩)
    (hcounts : ∀ userID identityID roomID, call ≠ ⟨.joinRoomViaInviteLink userID identityID token, .counting roomID⟩) :
    db'.inviteLinks.get? token = some link := by
  cases h with
  | createRoom _ _ h =>
    rw [(createRoomWithMembers_some h).2.2]
    exact hlink
  | createChannel h =>
    obtain ⟨channels, rfl⟩ := createChannel_some h
    exact hlink
  | updateRoom h =>
    rw [(updateRoomSettingsForUser_some h).2.2]
    exact hlink
  | joinByHash h | joinByLink h | approve h =>
    rw [(addRoomMember_some h).2.2]
    exact hlink
  | createLink h =>
    obtain ⟨hfree, rfl⟩ := createRoomInviteLink_some h
    have hne : token ≠ tick.id.text := by
      rintro rfl
      rw [hfree] at hlink
      cases hlink
    simp only [Table.get?_insertOrIgnore, if_neg hne]
    exact hlink
  | request h =>
    rw [(createRoomJoinRequest_some h).2]
    exact hlink
  | @deleteRoom userID roomID =>
    have hne : link.roomID ≠ roomID := by
      rintro rfl
      exact hdeletes userID rfl
    rw [Rooms.deleteRoom, Table.get?_deleteWhere, hlink]
    simp [hne]
  | @count userID identityID roomID t =>
    have hne : token ≠ t := by
      rintro rfl
      exact hcounts userID identityID roomID rfl
    rw [useRoomInviteLink, Table.get?_updateWhere, hlink]
    simp [hne]
  | updateRole _ | demote | promote | restore =>
    rw [apply_updateRole (f := Database.inviteLinks) fun _ _ => rfl]
    exact hlink
  | _ => exact hlink

theorem linkStep_join {userID identityID : UUID} (hlink : p.shared.inviteLinks.get? token = some link)
    (hmax : 0 < link.maxUses) (stage : Stage)
    (hok : Call.inTurn token p tick ⟨.joinRoomViaInviteLink userID identityID token, stage⟩ = true) :
    LinkStep token tick p link ⟨.joinRoomViaInviteLink userID identityID token, stage⟩
      (next sha256 tick p.shared ⟨.joinRoomViaInviteLink userID identityID token, stage⟩).1
      (next sha256 tick p.shared ⟨.joinRoomViaInviteLink userID identityID token, stage⟩).2 := by
  simp only [next, nextStage]
  fun_cases nextJoinByLink
  · fun_cases grant <;> exact .over hlink rfl rfl rfl
  · exact .over hlink rfl rfl rfl
  · rename_i link' hfind
    obtain rfl := Option.some.inj (hlink.symm.trans (Option.ite_none_left_eq_some.1 hfind).2)
    fun_cases checkLink
    · exact .over hlink rfl rfl rfl
    · exact .over hlink rfl rfl rfl
    · refine .check hlink rfl rfl ?_
      simp only [Call.inTurn, hlink, Option.all_some, ne_eq, not_true, decide_false, Bool.false_or,
        Bool.or_eq_true, decide_eq_true_eq] at hok
      grind
  · fun_cases readRoom
    · exact .over hlink rfl rfl rfl
    · exact .idle hlink rfl rfl fun _ => decide_eq_true rfl
  · fun_cases checkJoin
    · exact .over hlink rfl rfl rfl
    · exact .over hlink rfl rfl rfl
    · exact .idle hlink rfl rfl fun _ => decide_eq_true rfl
  · rename_i roomID
    fun_cases execute
    · rename_i hnone
      exact .over hlink (by simpa [Call.joins] using hnone) rfl rfl
    · rename_i db' hadded
      obtain ⟨hfails, hadded⟩ := Option.ite_none_left_eq_some.1 hadded
      refine .insert ?_ (if_pos ⟨rfl, by simpa using hfails, by rw [hadded]; rfl⟩) ?_ rfl (decide_eq_true rfl)
        (decide_eq_true rfl)
      · grind
      · simpa [Call.inTurn, hlink] using hok
  · have hfails : tick.fails = false := by simpa [Call.inTurn] using hok
    refine .count ?_ rfl (decide_eq_true rfl) rfl (decide_eq_true rfl) rfl
    rw [if_neg (by simp [hfails]), useRoomInviteLink, Table.get?_updateWhere, hlink]
    simp
  · have hjoins : Call.joins token tick p.shared ⟨.joinRoomViaInviteLink userID identityID token, stage⟩ = none := by
      unfold Call.joins
      grind
    have huncounted : Call.uncounted token ⟨.joinRoomViaInviteLink userID identityID token, stage⟩ = false := by
      unfold Call.uncounted
      grind
    obtain hstage | ⟨_, hstage⟩ | ⟨_, _, hstage⟩ | ⟨_, hstage⟩ := nextReload_cases stage <;> rw [hstage]
    · exact .idle hlink hjoins rfl id
    all_goals exact .over hlink hjoins huncounted.symm rfl

theorem not_underway (tick : Tick) (db : Database)
    (h : ∀ userID identityID, call.request ≠ .joinRoomViaInviteLink userID identityID token) :
    call.underway token = false ∧ call.uncounted token = false ∧ call.joins token tick db = none := by
  obtain ⟨request, stage⟩ := call
  cases request with
  | joinRoomViaInviteLink userID identityID t =>
    have hne : t ≠ token := by
      grind
    cases stage <;> grind [Call.underway, Call.uncounted, Call.joins]
  | _ => exact ⟨rfl, rfl, rfl⟩

theorem linkStep_next (hlink : p.shared.inviteLinks.get? token = some link) (hmax : 0 < link.maxUses)
    (hok : call.inTurn token p tick = true) :
    LinkStep token tick p link call (next sha256 tick p.shared call).1 (next sha256 tick p.shared call).2 := by
  by_cases hjoin : ∃ userID identityID, call.request = .joinRoomViaInviteLink userID identityID token
  · obtain ⟨request, stage⟩ := call <;> grind [linkStep_join]
  · have hother : ∀ userID identityID, call.request ≠ .joinRoomViaInviteLink userID identityID token :=
      fun userID identityID heq => hjoin ⟨userID, identityID, heq⟩
    obtain ⟨-, huncounted, hjoins⟩ := not_underway tick p.shared hother
    have hafter : (next sha256 tick p.shared call).2.underway token = false ∧
        (next sha256 tick p.shared call).2.uncounted token = false ∧ _ := not_underway tick p.shared hother
    refine .over ?_ hjoins (hafter.2.1.trans huncounted.symm) hafter.1
    refine (next_effect sha256 tick p.shared call).inviteLinks hlink ?_ ?_
    · grind [Call.inTurn]
    grind

end Steps

/-! ## Whole runs -/

/-- The uses with those to be counted are what was added, and with the calls under way they do not pass the limit. -/
structure Bounded (token : String) (link : InviteLink) (s : Tally) : Prop where
  uses : ∃ uses, s.system.shared.inviteLinks.get? token = some { link with uses := uses } ∧
    uses + usesUncounted token s.system = link.uses + s.added.length ∧
    uses + callsUnderway token s.system ≤ link.maxUses
  expiry : ∀ a ∈ s.added, a.2 ≤ parseTime link.expiresAt

section Runs

variable {sha256 : String → String} {token : String} {link : InviteLink} {s : Tally} {n : Nat}

theorem countWhere_start {request : Request} {counted : Call → Bool} (h : counted (Call.begin request) = false) :
    (step sha256 s.system (.start n request)).calls.countWhere (fun _ call => counted call) =
      s.system.calls.countWhere fun _ call => counted call := by
  simp only [step, Pool.step]
  cases hcall : s.system.calls.get? n with
  | none =>
    rw [Table.countWhere_insertOrIgnore hcall, h]
    rfl
  | some call =>
    have htaken : s.system.calls.rows.any (fun x => x.1 = n) = true := by
      rw [Table.any_key_iff, hcall]
      rfl
    rw [Table.insertOrIgnore, dif_pos htaken]

theorem bounded_start {request : Request} (h : Bounded token link s) :
    Bounded token link (tally sha256 token s (.start n request)) := by
  have hunderway : callsUnderway token (step sha256 s.system (.start n request)) = callsUnderway token s.system :=
    countWhere_start (by cases request <;> rfl)
  have huncounted : usesUncounted token (step sha256 s.system (.start n request)) = usesUncounted token s.system :=
    countWhere_start (by cases request <;> rfl)
  obtain ⟨uses, hlink, hcount, hlimit⟩ := h.uses
  have hadded : (tally sha256 token s (.start n request)).added = s.added := List.append_nil _
  constructor
  · refine ⟨uses, hlink, ?_, ?_⟩
    · grind [tally]
    grind [tally]
  · rw [hadded]
    exact h.expiry

theorem bounded_advance {tick : Tick} {call : Call} (hmax : 0 < link.maxUses) (h : Bounded token link s)
    (hcall : s.system.calls.get? n = some call) (hok : call.inTurn token s.system tick = true) :
    Bounded token link (tally sha256 token s (.advance n tick)) := by
  obtain ⟨uses, hlink, hcount, hlimit⟩ := h.uses
  have hnext := @linkStep_next sha256 _ _ _ _ _ hlink hmax hok
  have hadded : (tally sha256 token s (.advance n tick)).added =
      s.added ++ (call.joins token tick s.system.shared).toList := by
    rw [tally, addition, hcall, Option.bind_some]
  have hsystem : (tally sha256 token s (.advance n tick)).system =
      ⟨(next sha256 tick s.system.shared call).1, s.system.calls.put n (next sha256 tick s.system.shared call).2⟩ :=
    @Pool.step_advance _ _ _ _ Call.begin _ _ _ _ _ hcall
  generalize next sha256 tick s.system.shared call = r at hnext hsystem
  generalize tally sha256 token s (.advance n tick) = s' at hadded hsystem ⊢
  have hshared : s'.system.shared = r.1 := by rw [hsystem]
  have hunderway : callsUnderway token s'.system + (if call.underway token then 1 else 0) =
      callsUnderway token s.system + if r.2.underway token then 1 else 0 := by
    rw [hsystem]
    exact Table.countWhere_put hcall _ fun _ call => call.underway token
  have huncounted : usesUncounted token s'.system + (if call.uncounted token then 1 else 0) =
      usesUncounted token s.system + if r.2.uncounted token then 1 else 0 := by
    rw [hsystem]
    exact Table.countWhere_put hcall _ fun _ call => call.uncounted token
  cases hnext with
  | idle hlink' hjoins hsame hbefore =>
    rw [hjoins, Option.toList_none, List.append_nil] at hadded
    rw [hsame] at huncounted
    refine ⟨⟨uses, by rw [hshared]; exact hlink', ?_, ?_⟩, by rw [hadded]; exact h.expiry⟩
    · rw [hadded]
      omega
    grind
  | check hlink' hjoins hsame hleft =>
    rw [hjoins, Option.toList_none, List.append_nil] at hadded
    rw [hsame] at huncounted
    refine ⟨⟨uses, by rw [hshared]; exact hlink', ?_, ?_⟩, by rw [hadded]; exact h.expiry⟩
    · rw [hadded]
      omega
    · have hleft : uses + (callsUnderway token s.system : Int) < link.maxUses := hleft
      grind
  | insert hlink' hjoins htime hbefore hafter hwas =>
    rw [hjoins, Option.toList_some] at hadded
    rw [hbefore, hafter] at huncounted
    rw [hwas] at hunderway
    simp only [if_true, Bool.false_eq_true, if_false] at huncounted hunderway
    refine ⟨⟨uses, by rw [hshared]; exact hlink', ?_, ?_⟩, ?_⟩
    · grind
    · grind
    · rw [hadded]
      intro a ha
      obtain ha | ha := List.mem_append.1 ha
      · exact h.expiry a ha
      grind
  | count hlink' hjoins hbefore hafter hwas hend =>
    rw [hjoins, Option.toList_none, List.append_nil] at hadded
    rw [hbefore, hafter] at huncounted
    rw [hwas, hend] at hunderway
    simp only [if_true, Bool.false_eq_true, if_false] at huncounted hunderway
    refine ⟨⟨uses + 1, by rw [hshared]; exact hlink', ?_, ?_⟩, by rw [hadded]; exact h.expiry⟩
    · rw [hadded]
      omega
    · omega

theorem bounded_step {e : Event} (hmax : 0 < link.maxUses) (h : Bounded token link s) (hok : InTurn token s e) :
    Bounded token link (tally sha256 token s e) := by
  cases e with
  | start n request => exact bounded_start h
  | advance n tick =>
    cases hcall : s.system.calls.get? n with
    | none =>
      have hsame : tally sha256 token s (.advance n tick) = s := by
        simp [tally, addition, step, Pool.step, hcall]
      rw [hsame]
      exact h
    | some call => exact bounded_advance hmax h hcall (hok call hcall)

end Runs

/-- Whatever calls run side by side, if those that join by a link do so in turn: no more identities are added through
the link than it has uses, none after its expiry, and its count with the uses that are still to be counted is the
number of those that were added. -/
theorem invite_links_bounded (sha256 : String → String) (token : String) (link : InviteLink) (db : Database)
    (es : List Event) (hlink : db.inviteLinks.get? token = some link) (hmax : 0 < link.maxUses)
    (huses : link.uses ≤ link.maxUses) (hrun : Along (tally sha256 token) (InTurn token) ⟨fresh db, []⟩ es) :
    link.uses + (exec (tally sha256 token) ⟨fresh db, []⟩ es).added.length ≤ link.maxUses ∧
      (∀ a ∈ (exec (tally sha256 token) ⟨fresh db, []⟩ es).added, a.2 ≤ parseTime link.expiresAt) ∧
      ∃ link', (exec (tally sha256 token) ⟨fresh db, []⟩ es).system.shared.inviteLinks.get? token = some link' ∧
        link'.uses + usesUncounted token (exec (tally sha256 token) ⟨fresh db, []⟩ es).system =
          link.uses + (exec (tally sha256 token) ⟨fresh db, []⟩ es).added.length := by
  have hinit : Bounded token link ⟨fresh db, []⟩ :=
    ⟨⟨link.uses, hlink, rfl, by simpa [callsUnderway, fresh, Table.countWhere, Table.empty] using huses⟩, nofun⟩
  have hbounded : Bounded token link (exec (tally sha256 token) ⟨fresh db, []⟩ es) :=
    Along.invariant (fun _ _ h hok => bounded_step hmax h hok) hinit hrun
  obtain ⟨uses, hlink', hcount, hlimit⟩ := hbounded.uses
  refine ⟨?_, hbounded.expiry, _, hlink', hcount⟩
  have hle : usesUncounted token (exec (tally sha256 token) ⟨fresh db, []⟩ es).system ≤
      callsUnderway token (exec (tally sha256 token) ⟨fresh db, []⟩ es).system := by
    refine Table.countWhere_mono _ fun _ call huncounted => ?_
    unfold Call.uncounted at huncounted
    grind [Call.underway]
  omega

def sampleLink (maxUses : Int) : Database :=
  { sampleDatabase [sampleMember 1 .owner] with
    inviteLinks := ⟨[("t", ⟨.ofByte 7, .ofByte 1, formatTime (62135596800 * second), maxUses, 0, ""⟩)],
      List.nodup_singleton _⟩ }

def sampleJoins : List Event :=
  [.start 1 (.joinRoomViaInviteLink (.ofByte 12) (.ofByte 2) "t"),
    .start 2 (.joinRoomViaInviteLink (.ofByte 13) (.ofByte 3) "t")] ++
    (List.replicate 6 [.advance 1 (sampleTick 8), .advance 2 (sampleTick 8)]).flatten

/-- A link with two uses serves both. -/
theorem two_uses_for_two :
    (exec (tally id "t") ⟨fresh (sampleLink 2), []⟩ sampleJoins).added.map Prod.fst = [.ofByte 2, .ofByte 3] ∧
      0 + ((exec (tally id "t") ⟨fresh (sampleLink 2), []⟩ sampleJoins).added.length : Int) ≤ 2 ∧
      (∀ a ∈ (exec (tally id "t") ⟨fresh (sampleLink 2), []⟩ sampleJoins).added,
        a.2 ≤ parseTime (formatTime (62135596800 * second))) ∧
      ∃ link', (exec (tally id "t") ⟨fresh (sampleLink 2), []⟩ sampleJoins).system.shared.inviteLinks.get? "t" =
          some link' ∧
        link'.uses + usesUncounted "t" (exec (tally id "t") ⟨fresh (sampleLink 2), []⟩ sampleJoins).system =
          0 + (exec (tally id "t") ⟨fresh (sampleLink 2), []⟩ sampleJoins).added.length := by
  have hrun : (exec (tally id "t") ⟨fresh (sampleLink 2), []⟩ sampleJoins).added.map Prod.fst =
        [.ofByte 2, .ofByte 3] ∧
      Along (tally id "t") (InTurn "t") ⟨fresh (sampleLink 2), []⟩ sampleJoins := by decide +kernel
  exact ⟨hrun.1, invite_links_bounded id "t" ⟨.ofByte 7, .ofByte 1, formatTime (62135596800 * second), 2, 0, ""⟩
    (sampleLink 2) sampleJoins rfl (by decide) (by decide) hrun.2⟩

/-- So does a link with one use, whose count then is two. -/
theorem one_use_for_two :
    ((sampleLink 1).inviteLinks.get? "t").map InviteLink.maxUses = some 1 ∧
      (exec (tally id "t") ⟨fresh (sampleLink 1), []⟩ sampleJoins).added.map Prod.fst = [.ofByte 2, .ofByte 3] ∧
      (membersOf (exec (tally id "t") ⟨fresh (sampleLink 1), []⟩ sampleJoins).system.shared (.ofByte 7)).map
        Member.identityID = [.ofByte 1, .ofByte 2, .ofByte 3] ∧
      ((exec (tally id "t") ⟨fresh (sampleLink 1), []⟩ sampleJoins).system.shared.inviteLinks.get? "t").map
        InviteLink.uses = some 2 := by
  decide +kernel

end GaiaCom.Rooms
