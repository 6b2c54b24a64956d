/-
Top-secret rooms, with all calls side by side.

`UpdateRoom` writes the flag it has read, so an update that began before the mode was enabled takes it back. The
capabilities of the members are checked when the mode is enabled and never again: the three ways to join do not look at
the flag, and who joins between the check and the write is not checked at all. If the mode is enabled while no update
that would clear it is under way, and only capable identities are added to a room that is or is becoming top secret,
the flag stays and every member is capable (`top_secret_kept`).
-/
import GaiaCom.Rooms.Effects

namespace GaiaCom.Rooms

open Lib Core GaiaCom.Store

/-! ## Flags and capabilities -/

def isTopSecret (db : Database) (roomID : UUID) : Bool := (db.rooms.get? roomID).any Room.topSecret

def isCapable (db : Database) (identityID : UUID) : Bool :=
  (db.identities.get? identityID).any fun ident => capable ident.publicRecord

def AllCapable (db : Database) (roomID : UUID) : Prop :=
  ∀ m ∈ membersOf db roomID, isCapable db m.identityID = true

instance (db : Database) (roomID : UUID) : Decidable (AllCapable db roomID) :=
  inferInstanceAs (Decidable (∀ m ∈ membersOf db roomID, isCapable db m.identityID = true))

/-- The room's members have the capability if the room is top secret. -/
def Secure (db : Database) (roomID : UUID) : Prop := isTopSecret db roomID = true → AllCapable db roomID

instance (db : Database) (roomID : UUID) : Decidable (Secure db roomID) := inferInstanceAs (Decidable (_ → _))

def Call.clears (roomID : UUID) : Call → Bool
  | ⟨.updateRoom _ id req, .read _ room⟩ => id = roomID && !room.topSecret && req.topSecret ≠ some true
  | ⟨.updateRoom _ id _, .updating settings⟩ => id = roomID && !settings.topSecret
  | _ => false

def Call.secures (roomID : UUID) : Call → Bool
  | ⟨.updateRoom _ id _, .read _ room⟩ => id = roomID && room.topSecret
  | ⟨.updateRoom _ id _, .updating settings⟩ => id = roomID && settings.topSecret
  | _ => false

def Call.enables (roomID : UUID) : Call → Bool
  | ⟨.updateRoom _ id _, .updating settings⟩ => id = roomID && settings.topSecret
  | _ => false

def isSecuring (roomID : UUID) (p : System) : Bool :=
  isTopSecret p.shared roomID || p.calls.rows.any fun r => r.2.secures roomID

/-- The mode is enabled while no update that clears it is under way, and whoever is added to the room while it is top
secret or becomes so is capable. -/
def Call.guarded (roomID : UUID) (p : System) (tick : Tick) (call : Call) : Bool :=
  (!call.enables roomID || p.calls.rows.all fun r => !r.2.clears roomID) &&
  (call.creates.all fun ids => tick.id ≠ roomID || !isSecuring roomID p || ids.all (isCapable p.shared)) &&
  call.adds.all fun r => r.1 ≠ roomID || !isSecuring roomID p || isCapable p.shared r.2

def Guarded (roomID : UUID) (p : System) : Event → Prop
  | .start _ _ => True
  | .advance n tick => ∀ call ∈ p.calls.get? n, call.guarded roomID p tick = true

instance (roomID : UUID) (p : System) : DecidablePred (Guarded roomID p)
  | .start _ _ => .isTrue trivial
  | .advance n tick => inferInstanceAs (Decidable (∀ call ∈ p.calls.get? n, call.guarded roomID p tick = true))

/-- The event does not take the mode from the room, unless it deletes it. -/
def FlagKept (sha256 : String → String) (roomID : UUID) (p : System) (e : Event) : Prop :=
  isTopSecret p.shared roomID = true → ∀ room, (step sha256 p e).shared.rooms.get? roomID = some room →
    room.topSecret = true

/-! ## Updates on their way -/

section Updates

variable {sha256 : String → String} {roomID : UUID} {tick : Tick} {db : Database} {call : Call}

@[grind →]
theorem requireTopSecretCapabilities_ok {members : List RoomMember}
    (h : requireTopSecretCapabilities members = .ok ()) :
    ∀ m ∈ members, ∃ ident, m.identity = some ident ∧ capable ident.publicRecord = true := by
  induction members with
  | nil => exact nofun
  | cons m members ih =>
    unfold requireTopSecretCapabilities at h
    split at h
    · cases h
    rename_i ident hident
    split at h
    · cases h
    rename_i key hkey
    split at h
    · cases h
    rename_i hne
    intro m' hm'
    obtain rfl | hm' := List.mem_cons.1 hm'
    · exact ⟨ident, hident, by simp [capable, hkey, hne]⟩
    · exact ih h m' hm'

theorem allCapable_of_check (h : requireTopSecretCapabilities (findRoomMembers db roomID) = .ok ()) :
    AllCapable db roomID := by
  intro m hm
  have hread : (⟨m.identityID, m.role, parseTime m.joinedAt,
      (db.identities.get? m.identityID).filter fun _ => m.identityID ≠ .nil⟩ : RoomMember) ∈ findRoomMembers db roomID :=
    List.mem_map_of_mem ((List.mem_insertionSort _).2 hm)
  grind [isCapable, Option.filter_eq_some_iff]

theorem newSettings_ok {req : UpdateRoomRequest} {room : Room} {members : List RoomMember} {settings : Settings}
    (h : newSettings req room members = .ok settings) :
    (settings.topSecret = true ↔ room.topSecret = true ∨ req.topSecret = some true) ∧
      (req.topSecret = some true → requireTopSecretCapabilities members = .ok ()) := by
  unfold newSettings at h
  obtain ⟨_, -, h⟩ := bind_eq_ok.1 h
  obtain ⟨_, hdowngrade, h⟩ := bind_eq_ok.1 h
  rw [ensure_eq_ok] at hdowngrade
  cases hreq : req.topSecret with
  | none =>
    simp only [hreq, reduceCtorEq, if_false] at h
    obtain rfl := Except.ok.inj h
    simp
  | some flag =>
    cases flag with
    | true =>
      simp only [hreq, if_true] at h
      obtain ⟨⟨⟩, hcheck, h⟩ := bind_eq_ok.1 h
      obtain rfl := Except.ok.inj h
      exact ⟨by simp, fun _ => hcheck⟩
    | false =>
      simp only [hreq, Option.some.injEq, Bool.false_eq_true, if_false] at h
      obtain rfl := Except.ok.inj h
      simpa [hreq] using hdowngrade

theorem not_update (h : ∀ userID req, call.request ≠ .updateRoom userID roomID req) :
    call.clears roomID = false ∧ call.secures roomID = false := by
  obtain ⟨request, stage⟩ := call
  cases request with
  | updateRoom userID id req =>
    have hne : id ≠ roomID := by
      rintro rfl
      exact h userID req rfl
    cases stage <;> grind [Call.clears, Call.secures]
  | _ => exact ⟨rfl, rfl⟩

/-- Where an update is after a step if it clears or secures the room: it has read the room, or its members. -/
theorem update_next {userID : UUID} {req : UpdateRoomRequest} {stage : Stage}
    (h : (next sha256 tick db ⟨.updateRoom userID roomID req, stage⟩).2.clears roomID = true ∨
      (next sha256 tick db ⟨.updateRoom userID roomID req, stage⟩).2.secures roomID = true) :
    (next sha256 tick db ⟨.updateRoom userID roomID req, stage⟩).1 = db ∧
      ((∃ room, db.rooms.get? roomID = some room ∧
        (next sha256 tick db ⟨.updateRoom userID roomID req, stage⟩).2 =
          ⟨.updateRoom userID roomID req, .read roomID room⟩) ∨
      ∃ id room settings, stage = .read id room ∧ newSettings req room (findRoomMembers db roomID) = .ok settings ∧
        (next sha256 tick db ⟨.updateRoom userID roomID req, stage⟩).2 =
          ⟨.updateRoom userID roomID req, .updating settings⟩) := by
  simp only [next, nextStage] at h ⊢
  generalize hnext : nextUpdate tick db userID roomID req stage = result at h ⊢
  obtain ⟨db', stage'⟩ := result
  cases stage' with
  | read | updating =>
    revert hnext
    fun_cases nextUpdate <;> try unfold nextReload
    all_goals grind [grant, readRoom, execute]
  | _ => simp [Call.clears, Call.secures] at h

theorem clears_next (h : (next sha256 tick db call).2.clears roomID = true) :
    (next sha256 tick db call).1 = db ∧ (call.clears roomID = true ∨ isTopSecret db roomID = false) := by
  obtain ⟨request, stage⟩ := call
  by_cases hupdate : ∃ userID req, request = .updateRoom userID roomID req
  · obtain ⟨userID, req, rfl⟩ := hupdate
    obtain ⟨hdb, ⟨room, hroom, hnext⟩ | ⟨id, room, settings, rfl, hok, hnext⟩⟩ := update_next (.inl h)
    · grind [Call.clears, isTopSecret]
    · rw [hnext] at h
      refine ⟨hdb, .inl ?_⟩
      have hflag := (newSettings_ok hok).1
      simp only [Call.clears, decide_true, Bool.true_and, Bool.not_eq_true', ← Bool.not_eq_true, hflag, not_or] at h
      simp [Call.clears, h.1, h.2]
  grind [next, not_update]

/-- An update secures the room only if it did so before, has read the flag as true or has checked the members. -/
theorem secures_next (h : (next sha256 tick db call).2.secures roomID = true) :
    (next sha256 tick db call).1 = db ∧
      (call.secures roomID = true ∨ isTopSecret db roomID = true ∨ AllCapable db roomID) := by
  obtain ⟨request, stage⟩ := call
  by_cases hupdate : ∃ userID req, request = .updateRoom userID roomID req
  · obtain ⟨userID, req, rfl⟩ := hupdate
    obtain ⟨hdb, ⟨room, hroom, hnext⟩ | ⟨id, room, settings, rfl, hok, hnext⟩⟩ := update_next (.inr h)
    · grind [Call.secures, isTopSecret]
    · rw [hnext] at h
      refine ⟨hdb, ?_⟩
      obtain ⟨hflag, hcheck⟩ := newSettings_ok hok
      simp only [Call.secures, decide_true, Bool.true_and, hflag] at h
      grind [Call.secures, allCapable_of_check]
  · have hother : _ ∧ (next sha256 tick db ⟨request, stage⟩).2.secures roomID = false :=
      not_update fun userID req heq => hupdate ⟨userID, req, heq⟩
    rw [hother.2] at h
    cases h

end Updates

/-! ## The invariant -/

/-- What is known of a call: it does not clear the flag of a top-secret room, and the members of a room it secures are
capable. -/
structure Call.Tame (roomID : UUID) (db : Database) (call : Call) : Prop where
  clears : isTopSecret db roomID = true → call.clears roomID = false
  secures : call.secures roomID = true → AllCapable db roomID

section Invariant

variable {sha256 : String → String} {roomID : UUID} {tick : Tick} {p : System} {n : Nat} {call : Call}

theorem isSecuring_of_call (hcall : p.calls.get? n = some call) (h : call.secures roomID = true) :
    isSecuring roomID p = true := by
  rw [isSecuring, List.any_eq_true.2 ⟨(n, call), Table.get?_eq_some.1 hcall, h⟩, Bool.or_true]

theorem allCapable_next (hsecuring : isSecuring roomID p = true) (hcapable : AllCapable p.shared roomID)
    (hok : call.guarded roomID p tick = true) : AllCapable (next sha256 tick p.shared call).1 roomID := by
  have heffect := next_effect sha256 tick p.shared call
  have hsame : ∀ identityID, isCapable (next sha256 tick p.shared call).1 identityID =
      isCapable p.shared identityID := by
    grind [isCapable, heffect.identities]
  simp only [Call.guarded, Bool.and_eq_true] at hok
  obtain ⟨⟨-, hcreates⟩, hadds⟩ := hok
  unfold AllCapable
  simp only [hsame]
  cases heffect.room roomID with
  | same hmembers =>
    rw [hmembers]
    exact hcapable
  | @create userID req ids hreq hids hid _ hmembers =>
    rw [hmembers]
    intro m hm
    obtain hm | hm := List.mem_append.1 hm
    · exact hcapable m hm
    · rw [hreq, Call.creates, hids] at hcreates
      simp only [Option.all_some, hid, ne_eq, not_true, decide_false, hsecuring, Bool.not_true, Bool.false_or,
        List.all_eq_true] at hcreates
      obtain ⟨new, hnew, rfl⟩ := List.mem_map.1 hm
      obtain ⟨id, hid, rfl⟩ := List.mem_map.1 hnew
      exact hcreates id hid
  | @add identityID hadd hmembers =>
    rw [hmembers]
    intro m hm
    obtain hm | hm := List.mem_append.1 hm
    · exact hcapable m hm
    grind
  | remove _ hmembers =>
    rw [hmembers]
    exact fun m hm => hcapable m (List.mem_filter.1 hm).1
  | setRole _ hmembers =>
    rw [hmembers]
    intro m hm
    obtain ⟨row, hrow, rfl⟩ := List.mem_map.1 hm
    rw [setRole_identityID]
    exact hcapable row hrow
  | delete _ hmembers =>
    rw [hmembers]
    exact nofun

/-- The mode is on after a step only if it was on before, or an update that checked the members turned it on. -/
theorem isTopSecret_next (h : isTopSecret (next sha256 tick p.shared call).1 roomID = true) :
    isTopSecret p.shared roomID = true ∨ call.enables roomID = true := by
  cases (next_effect sha256 tick p.shared call).row roomID with
  | same hrow =>
    rw [isTopSecret, hrow] at h
    exact .inl h
  | create _ htop hrow =>
    grind [isTopSecret]
  | @update userID req settings hreq hrow =>
    rw [isTopSecret, hrow] at h
    cases hroom : p.shared.rooms.get? roomID with
    | none =>
      rw [hroom] at h
      cases h
    | some room =>
      rw [hroom] at h
      rw [hreq]
      have hflag : settings.topSecret = true := h
      exact .inr (by simp [Call.enables, hflag])
  | delete _ hrow =>
    rw [isTopSecret, hrow] at h
    cases h

theorem secures_of_enables (h : call.enables roomID = true) : call.secures roomID = true := by
  unfold Call.enables at h
  split at h
  · exact h
  cases h

theorem tame_step {e : Event} (hsecure : Secure p.shared roomID)
    (htame : ∀ n call, p.calls.get? n = some call → call.Tame roomID p.shared) (hok : Guarded roomID p e) :
    Secure (step sha256 p e).shared roomID ∧
      ∀ n call, (step sha256 p e).calls.get? n = some call → call.Tame roomID (step sha256 p e).shared := by
  refine Pool.invariant_step (I := fun db => Secure db roomID) (G := fun _ db call => call.Tame roomID db) ?_ ?_
    hsecure htame
  · intro n request _ _
    cases request <;> exact ⟨fun _ => rfl, nofun⟩
  · rintro n tick call rfl hcall hown
    have hguarded := hok call hcall
    have hkeep : isSecuring roomID p = true → AllCapable p.shared roomID →
        AllCapable (next sha256 tick p.shared call).1 roomID :=
      fun hsecuring hcapable => allCapable_next hsecuring hcapable hguarded
    have hsecured : ∀ m other, p.calls.get? m = some other → other.Tame roomID p.shared →
        other.secures roomID = true → AllCapable (next sha256 tick p.shared call).1 roomID :=
      fun m other hother hof hsecures => hkeep (isSecuring_of_call hother hsecures) (hof.secures hsecures)
    have htop : isTopSecret p.shared roomID = true → AllCapable (next sha256 tick p.shared call).1 roomID :=
      fun hflag => hkeep (by rw [isSecuring, hflag, Bool.true_or]) (hsecure hflag)
    -- when the mode is turned on, no update that clears it is under way
    have hclears : isTopSecret (next sha256 tick p.shared call).1 roomID = true → ∀ m other,
        p.calls.get? m = some other → other.Tame roomID p.shared → other.clears roomID = false := by
      intro hflag m other hother hof
      obtain hbefore | henables := isTopSecret_next hflag
      · exact hof.clears hbefore
      · simp only [Call.guarded, henables, Bool.not_true, Bool.false_or, Bool.and_eq_true, List.all_eq_true] at hguarded
        grind
    refine ⟨fun hflag => ?_, ⟨fun hflag => ?_, fun hsecures => ?_⟩, fun m other _ hother hof => ⟨fun hflag => ?_, ?_⟩⟩
    · grind [isTopSecret_next, secures_of_enables]
    · grind [clears_next]
    · grind [secures_next]
    · exact hclears hflag m other hother hof
    · exact hsecured m other hother hof

theorem flagKept_step {e : Event} (htame : ∀ n call, p.calls.get? n = some call → call.Tame roomID p.shared) :
    FlagKept sha256 roomID p e := by
  intro hflag room
  refine Pool.shared_step (P := fun db : Database => db.rooms.get? roomID = some room → _) (fun hroom => ?_) ?_
  · grind [isTopSecret]
  · intro n tick call _ hcall hroom
    cases (next_effect sha256 tick p.shared call).row roomID with
    | same hrow | create hfree _ _ => grind [isTopSecret]
    | @update userID req settings hreq hrow =>
      have hnot := (htame n call hcall).clears hflag
      rw [hreq] at hnot
      simp only [Call.clears, decide_true, Bool.true_and, Bool.not_eq_false'] at hnot
      obtain ⟨old, -, rfl⟩ := Option.map_eq_some_iff.1 (hrow.symm.trans hroom)
      exact hnot
    | delete _ hrow =>
      rw [hroom] at hrow
      cases hrow

end Invariant

/-- Whatever calls run side by side, if the mode is enabled while no update that clears it is under way, and the
identities that are added to a room that is or becomes top secret are capable: the mode is never taken from the room, and
in a top-secret room every member is capable. -/
theorem top_secret_kept (sha256 : String → String) (roomID : UUID) (db : Database) (es : List Event)
    (hsecure : Secure db roomID) (hrun : Along (step sha256) (Guarded roomID) (fresh db) es) :
    Along (step sha256) (FlagKept sha256 roomID) (fresh db) es ∧
      Secure (exec (step sha256) (fresh db) es).shared roomID := by
  have hinit : Secure (fresh db).shared roomID ∧
      ∀ n call, (fresh db).calls.get? n = some call → call.Tame roomID (fresh db).shared := by
    grind [fresh]
  have hstep : ∀ p e, (Secure p.shared roomID ∧
      ∀ n call, p.calls.get? n = some call → call.Tame roomID p.shared) → Guarded roomID p e →
      Secure (step sha256 p e).shared roomID ∧
        ∀ n call, (step sha256 p e).calls.get? n = some call → call.Tame roomID (step sha256 p e).shared :=
    fun p e h hok => tame_step h.1 h.2 hok
  exact ⟨Along.imp_of_invariant hstep (fun p e h _ => flagKept_step h.2) hinit hrun,
    (Along.invariant hstep hinit hrun).1⟩

def sampleRecord : String := "\x7b\"public_keys\":\x7b\"mldsa87\":\"k\"\x7d\x7d"

def sampleCapable : Database :=
  { sampleDatabase [sampleMember 1 .owner, sampleMember 2 .admin] with
    identities := ⟨[(.ofByte 1, { sampleIdentity 11 with publicRecord := sampleRecord }),
      (.ofByte 2, { sampleIdentity 12 with publicRecord := sampleRecord }), (.ofByte 3, sampleIdentity 13)], by decide⟩ }

def sampleEnable : Request := .updateRoom (.ofByte 11) (.ofByte 7) ⟨"r", "", "", none, none, none, some true⟩

def sampleRename : Request := .updateRoom (.ofByte 12) (.ofByte 7) ⟨"s", "", "", none, none, none, none⟩

/-- One update after the other. -/
theorem renamed_after_enabling :
    isTopSecret (exec (step id) (fresh sampleCapable)
        (sampleSteps 1 sampleEnable 5 ++ sampleSteps 2 sampleRename 5)).shared (.ofByte 7) = true ∧
      Along (step id) (FlagKept id (.ofByte 7)) (fresh sampleCapable)
        (sampleSteps 1 sampleEnable 5 ++ sampleSteps 2 sampleRename 5) ∧
      Secure (exec (step id) (fresh sampleCapable)
        (sampleSteps 1 sampleEnable 5 ++ sampleSteps 2 sampleRename 5)).shared (.ofByte 7) := by
  refine And.imp_right (fun hrun => top_secret_kept id (.ofByte 7) sampleCapable _ nofun hrun) ?_
  decide +kernel

/-- The second user's update has read the room and its members when the first user turns the mode on, and then writes
what it has read. And the third user, who is not capable, joins the room while the mode is on. -/
theorem flag_cleared_and_joined :
    isTopSecret (exec (step id) (fresh sampleCapable)
        (sampleSteps 2 sampleRename 3 ++ sampleSteps 1 sampleEnable 4)).shared (.ofByte 7) = true ∧
      isTopSecret (exec (step id) (fresh sampleCapable)
        (sampleSteps 2 sampleRename 3 ++ sampleSteps 1 sampleEnable 4 ++ [.advance 2 (sampleTick 8)])).shared
        (.ofByte 7) = false ∧
      Secure (exec (step id) (fresh sampleCapable) (sampleSteps 1 sampleEnable 4)).shared (.ofByte 7) ∧
      ¬ Secure (exec (step id) (fresh sampleCapable) (sampleSteps 1 sampleEnable 4 ++
        sampleSteps 3 (.joinRoomByHash (.ofByte 13) (.ofByte 3) "h") 4)).shared (.ofByte 7) := by
  decide +kernel

end GaiaCom.Rooms
