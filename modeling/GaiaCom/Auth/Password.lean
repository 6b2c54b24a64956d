/-
Changing the password. `ChangePassword` sets the hash and revokes the other sessions in one transaction. A login
verifies a hash that it read before, and then replaces the hash and makes a session without looking again; if the
transaction comes in between, the old password is stored again and has a session. If no
login of the user is between its two statements when the transaction runs, the change is final until the next one
(`password_change_final`).
-/
import GaiaCom.Auth.Refresh

namespace GaiaCom.Auth

open Lib Core GaiaCom.Store

/-! ## Logins -/

/-- A login of the user has verified the password and is yet to replace the hash or to make its session. -/
def Stage.inFlight (userID : UUID) : Stage → Bool
  | .rehashing id => id = userID
  | .creating id => id = userID
  | _ => false

def Stage.verifiedFor (userID : UUID) : Stage → Bool
  | .rehashing id => id = userID
  | .creating id => id = userID
  | .created id _ => id = userID
  | .abandoned id _ _ => id = userID
  | .succeeded id _ => id = userID
  | _ => false

/-- No login of the user is in flight. -/
def Quiet (userID : UUID) (p : System) : Prop :=
  ∀ n username password stage, p.calls.get? n = some ⟨.login username password, stage⟩ → stage.inFlight userID = false

/-- The event does not change the user's password. -/
def NoChange (d : Digest) (userID : UUID) (p : System) : Event → Prop
  | .start _ _ => True
  | .advance n tick =>
    ∀ currentSessionID currentPassword newPassword,
      p.calls.get? n = some ⟨.changePassword userID currentSessionID currentPassword newPassword, .verified⟩ →
      ¬ ∃ userID' sessionID, (next d tick p.shared
        ⟨.changePassword userID currentSessionID currentPassword newPassword, .verified⟩).2.stage =
          .succeeded userID' sessionID

/-! ## One step -/

section Steps

variable {d : Digest} {tick : Tick} {db : Database}

@[grind →]
theorem findUserByUsername_some {username : String} {userID : UUID} {user : User}
    (h : findUserByUsername db username = some (userID, user)) : db.users.get? userID = some user :=
  Table.get?_eq_some.2 (List.mem_of_find?_eq_some h)

theorem nextLogin_verified {username password : String} {stage : Stage} {userID : UUID}
    (h : (nextLogin d tick db username password stage).2.verifiedFor userID = true) :
    (stage.verifiedFor userID = true ∧
      ((nextLogin d tick db username password stage).2.inFlight userID = true → stage.inFlight userID = true)) ∨
    ∃ user, db.users.get? userID = some user ∧ user.passwordHash.password = password := by
  revert h
  fun_cases nextLogin <;> intro h
  case case3 found user hfound needsRehash hverify =>
    have hmatch : user.passwordHash.password = password := by
      grind [verifyPassword]
    have hid : found = userID := by
      cases needsRehash with
      | false | true => simpa [Stage.verifiedFor] using h
    exact .inr ⟨user, hid ▸ findUserByUsername_some (Option.ite_none_left_eq_some.1 hfound).2, hmatch⟩
  all_goals grind [Stage.verifiedFor, Stage.inFlight]

/-- What a step does to the users: nothing, or a rehash of a login in flight, or a password change. -/
theorem next_users (call : Call) :
    (next d tick db call).1.users = db.users ∨
    (∃ username password userID, call = ⟨.login username password, .rehashing userID⟩ ∧
      (next d tick db call).1 = updateUserPasswordHash db userID (hashPassword password tick.salt)) ∨
    ∃ userID currentSessionID currentPassword newPassword db',
      call = ⟨.changePassword userID currentSessionID currentPassword newPassword, .verified⟩ ∧
      updateUserPasswordAndRevokeSessions db tick.now userID (hashPassword newPassword tick.salt) currentSessionID =
        some db' ∧
      next d tick db call = (db', ⟨call.request, .succeeded userID none⟩) := by
  obtain ⟨request, stage⟩ := call
  cases request with
  | login username password =>
    simp only [next, nextStage]
    fun_cases nextLogin <;> grind [createDeviceSession, setDeviceSessionRefresh, revokeDeviceSession]
  | refresh rawToken =>
    simp only [next, nextStage]
    fun_cases nextRefresh <;> grind [rotateDeviceSessionRefresh, revokeDeviceSession]
  | changePassword userID currentSessionID currentPassword newPassword =>
    simp only [next, nextStage]
    fun_cases nextChange <;> grind
  | logout userID sessionID | revokeDeviceSession userID sessionID currentSessionID | revokeKey userID keyID =>
    left
    simp only [next, nextStage]
    cases stage <;> grind [nextLogout, nextRevokeSession, nextRevokeKey, runRevoke, revokeDeviceSession, revokeDeviceKey]
  | validate userID sessionID =>
    simp only [next, nextStage]
    fun_cases nextValidate <;> exact .inl rfl

end Steps

/-! ## After a change -/

section Final

variable {d : Digest} {userID keep : UUID} {q : String}

/-- The stored hash is one of `q`, and so are the logins of all other sessions of the user that are not revoked. -/
structure Final (userID keep : UUID) (q : String) (db : Database) : Prop where
  stored : ∃ user ∈ db.users.get? userID, user.passwordHash.password = q
  sessions : ∀ id session, db.sessions.get? id = some session → session.userID = userID → id ≠ keep →
    session.revokedAt = "" → session.password = q

/-- Logins in flight, and all logins not yet begun in `p`, are verified for the user with `q` only. -/
def Verified (userID : UUID) (q : String) (p : System) (n : Nat) (call : Call) : Prop :=
  ∀ username password, call.request = .login username password →
    (call.stage.inFlight userID = true ∨ (p.calls.get? n = none ∧ call.stage.verifiedFor userID = true)) → password = q

theorem verifiedFor_of_inFlight {stage : Stage} (h : stage.inFlight userID = true) : stage.verifiedFor userID = true := by
  cases stage with
  | rehashing id | creating id => exact h
  | _ => cases h

variable {db : Database}

theorem get?_updateUserPasswordHash {id id' : UUID} {hash : PasswordHash} :
    (updateUserPasswordHash db id hash).users.get? id' =
      (db.users.get? id').map fun user => if id' = id then { user with passwordHash := hash } else user := by
  simp [updateUserPasswordHash]

theorem final_next {p q' : System} {n : Nat} {tick : Tick} {call : Call} (hcall : p.calls.get? n = some call)
    (huntil : NoChange d userID p (.advance n tick)) (hfinal : Final userID keep q p.shared)
    (hverified : Verified userID q q' n call) : Final userID keep q (next d tick p.shared call).1 := by
  obtain ⟨user, huser, hhash⟩ := hfinal.stored
  constructor
  · rcases @next_users d tick p.shared call with
      hsame | ⟨username, password, id, rfl, hdb⟩ | ⟨id, cur, old, new, db', rfl, hchange, hnext⟩
    · grind
    · rw [hdb, get?_updateUserPasswordHash, Option.mem_def.1 huser]
      by_cases hid : userID = id
      · -- the login read the hash of `q`, so it is `q` that is hashed again
        have hpassword : password = q := hverified username password rfl (.inl (by simp [Stage.inFlight, hid]))
        exact ⟨_, rfl, by simp [hid, hashPassword, hpassword]⟩
      · exact ⟨user, by simp [hid], hhash⟩
    · by_cases hid : userID = id
      · subst hid
        exact absurd ⟨userID, none, by rw [hnext]⟩ (huntil cur old new hcall)
      grind [updateUserPasswordAndRevokeSessions, Option.mem_def, get?_updateUserPasswordHash]
  · intro id session hsession howner hkeep hactive
    have hevolves := next_evolves d tick p.shared call id
    rw [hsession] at hevolves
    generalize hold : p.shared.sessions.get? id = old at hevolves
    cases hevolves with
    | same => grind [hfinal.sessions]
    | changed hc =>
      obtain ⟨hwas, hsameUser, hsamePassword, -⟩ := hc <;> grind [hfinal.sessions]
    | created hmade =>
      obtain ⟨request, stage⟩ := call
      cases request with
      | login username password =>
        cases stage with
        | creating maker =>
          simp only [madeBy, Option.some.injEq, Prod.mk.injEq] at hmade
          obtain ⟨rfl, rfl⟩ := hmade
          exact hverified username password rfl (.inl (by simpa [Stage.inFlight] using howner))
        | _ => cases hmade
      | _ => cases hmade

theorem verified_next {q' : System} {n : Nat} {tick : Tick} {call : Call}
    (hfinal : Final userID keep q db) (hverified : Verified userID q q' n call) :
    Verified userID q q' n (next d tick db call).2 := by
  obtain ⟨request, stage⟩ := call
  intro username password hrequest hstage
  change request = .login username password at hrequest
  subst hrequest
  have hnow : (nextLogin d tick db username password stage).2.verifiedFor userID = true :=
    hstage.elim verifiedFor_of_inFlight And.right
  rcases nextLogin_verified hnow with ⟨hbefore, hflight⟩ | ⟨user, huser, hmatch⟩
  · exact hverified username password rfl (hstage.imp hflight fun h => ⟨h.1, hbefore⟩)
  · obtain ⟨user', huser', hhash⟩ := hfinal.stored
    obtain rfl := Option.some.inj (huser.symm.trans huser')
    exact hmatch.symm.trans hhash

theorem final_change {db' : Database} {now : Nat} (hnow : now ≠ 0) {salt : Nat}
    (h : updateUserPasswordAndRevokeSessions db now userID (hashPassword q salt) keep = some db') :
    Final userID keep q db' := by
  unfold updateUserPasswordAndRevokeSessions at h
  split at h
  · cases h
  rename_i hfound
  rw [← Option.some.inj h]
  constructor
  · rw [Option.isNone_iff_eq_none] at hfound
    obtain ⟨user, huser⟩ := Option.ne_none_iff_exists'.1 hfound
    refine ⟨{ user with passwordHash := hashPassword q salt }, ?_, rfl⟩
    simp only [Option.mem_def]
    rw [get?_updateUserPasswordHash, huser]
    simp
  · intro id session hsession howner hkeep hactive
    simp only [Table.get?_updateWhere, Option.map_eq_some_iff] at hsession
    obtain ⟨old, -, rfl⟩ := hsession
    exfalso
    split at howner
    · rename_i hrevoked
      rw [if_pos hrevoked] at hactive
      exact formatTime_ne_empty hnow hactive
    · rename_i hrevoked
      rw [if_neg hrevoked] at hactive
      exact hrevoked (by simp [revokedByChange, howner, hkeep, hactive])

end Final

/-- A password change that no login of the user is in flight across is final: until the next change the stored hash
is one of the new password, no login that begins later succeeds with the old one, and all sessions made with the old
one but the kept one are revoked. -/
theorem password_change_final (d : Digest) (p : System) (n : Nat) (tick : Tick) (userID keep : UUID)
    (old new : String) (hne : old ≠ new)
    (hcall : p.calls.get? n = some ⟨.changePassword userID keep old new, .verified⟩)
    (hok : (next d tick p.shared ⟨.changePassword userID keep old new, .verified⟩).2.stage = .succeeded userID none)
    (hquiet : Quiet userID p) (es : List Event)
    (huntil : Along (step d) (NoChange d userID) (step d p (.advance n tick)) es) :
    (∃ user ∈ (exec (step d) (step d p (.advance n tick)) es).shared.users.get? userID,
      user.passwordHash.password = new) ∧
    (∀ m username stage sessionID, (step d p (.advance n tick)).calls.get? m = none →
      (exec (step d) (step d p (.advance n tick)) es).calls.get? m = some ⟨.login username old, stage⟩ →
      stage ≠ .succeeded userID sessionID) ∧
    ∀ id session, (exec (step d) (step d p (.advance n tick)) es).shared.sessions.get? id = some session →
      session.userID = userID → session.password = old → id ≠ keep → session.revokedAt ≠ "" := by
  have hcommitted : Final userID keep new (step d p (.advance n tick)).shared := by
    rw [step, Pool.step_advance hcall]
    simp only [next, nextStage, nextChange] at hok ⊢
    grind [final_change, tick.now_ne]
  have hlogins : ∀ m call, (step d p (.advance n tick)).calls.get? m = some call →
      Verified userID new (step d p (.advance n tick)) m call := by
    intro m call hm username password hrequest hstage
    obtain ⟨request, stage⟩ := call
    change request = .login username password at hrequest
    subst hrequest
    exfalso
    rcases hstage with hflight | ⟨hnew, -⟩
    · rw [step, Pool.step_advance hcall, Table.get?_put] at hm
      split at hm
      · cases hm
      exact Bool.false_ne_true ((hquiet m username password stage hm).symm.trans hflight)
    · rw [hnew] at hm
      cases hm
  have hrun := Along.invariant
    (P := fun q' => Final userID keep new q'.shared ∧ ∀ m call, q'.calls.get? m = some call →
      Verified userID new (step d p (.advance n tick)) m call)
    (fun q' e h hu => by
      refine Pool.invariant_step (G := fun m _ call => Verified userID new (step d p (.advance n tick)) m call)
        ?_ ?_ h.1 h.2
      · rintro m request rfl - username password - hstage
        rcases hstage with hflight | ⟨-, hverified⟩
        · cases hflight
        · cases hverified
      grind [final_next, verified_next])
    ⟨hcommitted, hlogins⟩ huntil
  obtain ⟨hfinal, hverified⟩ := hrun
  refine ⟨hfinal.stored, ?_, ?_⟩
  · rintro m username stage sessionID hnew hm rfl
    exact hne (hverified m _ hm username old rfl (.inr ⟨hnew, by simp [Stage.verifiedFor]⟩))
  grind [hfinal.sessions]

/-! ## Samples -/

def sampleAccount : Database where
  users := Table.empty.insertOrIgnore (.ofByte 11) ⟨"alice", ⟨"old password", true, 0⟩⟩
  sessions := Table.empty
  deviceKeys := Table.empty

def sampleChange : Request := .changePassword (.ofByte 11) .nil "old password" "new password"

def sampleVerified : System :=
  exec (step .marked) (idle sampleAccount) [.start 1 sampleChange, .advance 1 (sampleTick 1)]

/-- A login with the old password that begins after the change fails. -/
theorem old_password_rejected :
    ((step .marked sampleVerified (.advance 1 (sampleTick 2))).calls.get? 1).map Call.stage =
        some (.succeeded (.ofByte 11) none) ∧
      ∃ user ∈ (exec (step .marked) (step .marked sampleVerified (.advance 1 (sampleTick 2)))
          [.start 2 (.login "alice" "old password"), .advance 2 (sampleTick 3)]).shared.users.get? (.ofByte 11),
        user.passwordHash.password = "new password" := by
  have hcall : sampleVerified.calls.get? 1 = some ⟨sampleChange, .verified⟩ := by decide +kernel
  have hquiet : Quiet (.ofByte 11) sampleVerified := by
    intro n username password stage hn
    have hrows : sampleVerified.calls.rows = [(1, ⟨sampleChange, .verified⟩)] := by decide +kernel
    rw [Table.get?_eq_some, hrows, List.mem_singleton, Prod.mk.injEq] at hn
    cases congrArg Call.request hn.2
  have huntil : Along (step .marked) (NoChange .marked (.ofByte 11))
      (step .marked sampleVerified (.advance 1 (sampleTick 2)))
      [.start 2 (.login "alice" "old password"), .advance 2 (sampleTick 3)] := by
    refine ⟨trivial, ?_, trivial⟩
    intro keep old new hn
    have hlogin : (step .marked (step .marked sampleVerified (.advance 1 (sampleTick 2)))
        (.start 2 (.login "alice" "old password"))).calls.get? 2 = some ⟨.login "alice" "old password", .started⟩ := by
      decide +kernel
    cases congrArg Call.request (Option.some.inj (hlogin.symm.trans hn))
  refine ⟨by decide +kernel, ?_⟩
  exact (password_change_final .marked sampleVerified 1 (sampleTick 2) (.ofByte 11) .nil "old password" "new password"
    (by decide) hcall (by decide +kernel) hquiet _ huntil).1

def sampleOverlap : List Event :=
  [.start 0 (.login "alice" "old password"), .advance 0 (sampleTick 1),
    .start 1 sampleChange, .advance 1 (sampleTick 2), .advance 1 (sampleTick 3),
    .advance 0 (sampleTick 4), .advance 0 (sampleTick 5), .advance 0 (sampleTick 6)]

/-- The hash is again one of the old password, and the old password has a session that is not revoked. -/
theorem old_password_restored :
    ((exec (step .marked) (idle sampleAccount) sampleOverlap).calls.get? 1).map Call.stage =
        some (.succeeded (.ofByte 11) none) ∧
      ((exec (step .marked) (idle sampleAccount) sampleOverlap).shared.users.get? (.ofByte 11)).map
        (fun user => user.passwordHash.password) = some "old password" ∧
      ((exec (step .marked) (idle sampleAccount) sampleOverlap).shared.sessions.get? (.ofByte 9)).map
        (fun session => (session.userID, session.password, session.revokedAt)) =
          some (.ofByte 11, "old password", "") := by
  decide +kernel

end GaiaCom.Auth
