/-
Slow mode: the limiter of `SaveAndDistributeMessage` for the plain members of a room, under calls that run side by
side.

The limiter looks at the envelopes that are stored, and a message to a room is stored once for each recipient, by calls
of their own. So the first of these calls keeps out those that are checked after it. And a call is checked and saves in
two steps, so that two messages may both be checked before either is saved. Where neither happens, slow mode leaves the
calls of a message alone and keeps messages apart (`slow_mode_paces`).
-/
import GaiaCom.Lib.Pool
import GaiaCom.Messaging.Fanout

namespace GaiaCom.Messaging.SlowMode

open Lib Core GaiaCom.Store
open Posting (Tables Room Meta PostError checkSender checkRoom checkMember deliver decodeMeta isPrivileged
  saveAndDistributeMessage)
open Fanout (Crypto Sender DeviceVault PublicKeys Sealed encryptForRecipientDevices deliverDeviceEnvelopes requestFor)

/-! ## Calls -/

/-- A call for one recipient of a message; the calls of a message have its number in common. -/
structure RoomCall where
  message : Nat
  request : Posting.Request

/-- How far a call has come, and when. -/
inductive Stage where
  | submitted
  | checked (time : Nat)
  | saved (id : UUID) (time : Nat)
  | failed (err : PostError)
  deriving DecidableEq

structure Call where
  message : Nat
  request : Posting.Request
  stage : Stage

/-- The store and the time of the last step. -/
structure Shared where
  store : Posting.Store
  clock : Nat

def Call.info (call : Call) : Meta := decodeMeta call.request.envelopeData

def requestAt (req : Posting.Request) (now : Nat) : Posting.Request := { req with now := now, savedAt := now }

def check (now : Nat) (st : Posting.Store) (call : Call) : Except PostError Unit := do
  checkSender (requestAt call.request now) st.tables
  checkRoom (requestAt call.request now) st.tables call.info st.rooms

def checkedStage (now : Nat) : Except PostError Unit → Stage
  | .ok () => .checked now
  | .error err => .failed err

def savedStage (now : Nat) : Except PostError UUID → Stage
  | .ok id => .saved id now
  | .error err => .failed err

/-- `SaveAndDistributeMessage` in two steps: the checks, and the delivery. -/
def nextStage (now : Nat) (st : Posting.Store) (call : Call) : Posting.Store × Stage :=
  match call.stage with
  | .submitted => (st, checkedStage now (check now st call))
  | .checked _ => ({ st with tables := (deliver (requestAt call.request now) st.tables call.info).1 },
      savedStage now (deliver (requestAt call.request now) st.tables call.info).2)
  | stage => (st, stage)

def next (now : Nat) (s : Shared) (call : Call) : Shared × Call :=
  (⟨(nextStage now s.store call).1, now⟩, { call with stage := (nextStage now s.store call).2 })

def submit (r : RoomCall) : Call := ⟨r.message, r.request, .submitted⟩

abbrev System := Pool Shared Call
abbrev Event := Pool.Event RoomCall Nat

def step : System → Event → System := Pool.step submit next

def fresh (st : Posting.Store) : System := ⟨⟨st, 0⟩, Table.empty⟩

/-- `handleSendGroupMessage`: what the client posts for one member of the room. It posts for all of them at once. -/
def handleSendGroupMessage (crypto : Crypto) (sender : Sender) (vault : Option DeviceVault) (roomID channelID : String)
    (senderID memberID : UUID) (keys : PublicKeys) (messageID : UUID) (sentAt : Nat) (parts : Sealed) (base : Posting.Request) :
    Except Fanout.SealError (List Posting.Request) := do
  let envelopes ← encryptForRecipientDevices crypto keys sender vault messageID sentAt parts
  return deliverDeviceEnvelopes base senderID memberID
    (envelopes.map fun e => e.with ⟨none, some roomID, some channelID, none⟩)

/-! ## Slow mode -/

/-- The room with slow mode, a plain member of it and a channel. -/
structure Setting where
  roomID : UUID
  senderID : UUID
  gaiaID : String
  channelID : String
  seconds : Nat

variable (c : Setting)

/-- The setting is that of the store. The wait fits into a duration. -/
structure Setting.In (st : Posting.Store) : Prop where
  room : ∃ room member, st.rooms.get? c.roomID = some room ∧ room.slowModeSeconds = c.seconds ∧
    (room.members.find? fun member => member.identityID = c.senderID) = some member ∧ isPrivileged member.role = false
  positive : 0 < c.seconds
  fits : c.seconds * 1000000000 < 2 ^ 63
  channel : c.channelID ≠ ""
  identity : ∃ ident, st.tables.identities.get? c.senderID = some ident ∧ ident.gaiaID = c.gaiaID
  unique : ∀ id ident, st.tables.identities.get? id = some ident → ident.gaiaID = c.gaiaID → id = c.senderID

def Setting.has (call : Call) : Bool := call.request.senderID = c.senderID && call.info.channelID = c.channelID

def Setting.hasRow (e : Posting.Envelope) : Bool := e.sender = c.gaiaID && e.channelID = c.channelID

def Call.checkedAt (call : Call) : Option Nat :=
  match call.stage with
  | .checked time => some time
  | _ => none

def Call.savedAt (call : Call) : Option Nat :=
  match call.stage with
  | .saved _ time => some time
  | _ => none

def Call.savedID (call : Call) : Option UUID :=
  match call.stage with
  | .saved id _ => some id
  | _ => none

def relaxed (st : Posting.Store) (roomID : UUID) : Posting.Store :=
  { st with rooms := st.rooms.updateWhere (fun id _ => id = roomID) fun room => { room with slowModeSeconds := 0 } }

/-- A call of the member is checked as if there were no slow mode, if nothing is stored of the member in the channel
from the seconds before but what other calls of the same message have saved. -/
def Unhindered (p : System) : Event → Prop
  | .start _ _ => True
  | .advance n now => ∀ call ∈ p.calls.get? n, c.has call = true → call.stage = .submitted →
      (∀ id e, p.shared.store.tables.envelopes.get? id = some e → c.hasRow e = true →
        (∃ r ∈ p.calls.rows, r.2.message = call.message ∧ r.2.savedID = some id) ∨
          parseTime e.createdAt + c.seconds * second ≤ now) →
      check now p.shared.store call = check now (relaxed p.shared.store c.roomID) call

/-- The call of this number is one of the member in the channel for the message, with this time. -/
def Reached (timeOf : Call → Option Nat) (p : System) (n message time : Nat) : Prop :=
  ∃ call, p.calls.get? n = some call ∧ c.has call = true ∧ call.message = message ∧ timeOf call = some time

/-- It has saved at the time. -/
abbrev Saved (p : System) (n message time : Nat) : Prop := Reached c Call.savedAt p n message time

/-- It has been checked at the time and not yet saved. -/
abbrev Checked (p : System) (n message time : Nat) : Prop := Reached c Call.checkedAt p n message time

/-- Different messages of the member in the channel are the seconds apart. -/
def Spaced (p : System) : Prop :=
  ∀ n message time n' message' time', Saved c p n message time → Saved c p n' message' time' → message ≠ message' →
    time + c.seconds * second ≤ time' ∨ time' + c.seconds * second ≤ time

/-! ## Calls in order -/

/-- A call of the member names the room, its queries are answered, and it is checked before any call of its message has
saved. When it saves, no call of another message is between its check and its save, and the time is the last also as a
text. -/
def InOrder (p : System) (now : Nat) (call : Call) : Prop :=
  match call.stage with
  | .submitted => parse call.info.roomID = some c.roomID ∧ call.request.faults.room = false ∧
      call.request.faults.lastMessage = false ∧
      ∀ r ∈ p.calls.rows, r.2.message = call.message → r.2.savedID = none
  | .checked _ => (∀ r ∈ p.calls.rows, c.has r.2 = true → r.2.checkedAt.isSome = true → r.2.message = call.message) ∧
      ∀ r ∈ p.shared.store.tables.envelopes.rows, c.hasRow r.2 = true → r.2.createdAt ≤ formatTime now
  | _ => True

instance (p : System) (now : Nat) : DecidablePred (InOrder c p now)
  | ⟨_, _, .submitted⟩ => inferInstanceAs (Decidable (_ ∧ _ ∧ _ ∧ _))
  | ⟨_, _, .checked _⟩ => inferInstanceAs (Decidable (_ ∧ _))
  | ⟨_, _, .saved _ _⟩ => .isTrue trivial
  | ⟨_, _, .failed _⟩ => .isTrue trivial

/-- The clock does not go back, and the calls of the member in the channel are in order. -/
def Orderly (p : System) : Event → Prop
  | .start _ _ => True
  | .advance n now => p.shared.clock ≤ now ∧ InRange now ∧
      ∀ call ∈ p.calls.get? n, c.has call = true → InOrder c p now call

instance (p : System) : DecidablePred (Orderly c p)
  | .start _ _ => .isTrue trivial
  | .advance n now => inferInstanceAs (Decidable (p.shared.clock ≤ now ∧ InRange now ∧
      ∀ call ∈ p.calls.get? n, c.has call = true → InOrder c p now call))

/-! ## The limiter -/

section Limiter

variable {c} {st : Posting.Store} {call : Call} {now : Nat}

theorem toInt_seconds {seconds : Nat} (h : seconds * 1000000000 < 2 ^ 63) :
    (Int64.ofInt seconds * 1000000000).toInt = seconds * second := by
  have hmul : Int64.ofInt seconds * 1000000000 = Int64.ofInt (seconds * 1000000000) := by
    rw [Int64.ofInt_mul]
    rfl
  rw [hmul, Int64.toInt_ofInt_of_le (by omega) (by omega)]
  rfl

def lastTime (c : Setting) (t : Tables) : Nat :=
  (((t.envelopes.first? (fun _ e => c.hasRow e) fun a b => b.2.createdAt < a.2.createdAt).bind t.envelopes.get?).map
    fun e => parseTime e.createdAt).getD 0

theorem isTooSoon_iff (hin : c.In st) (hhas : c.has call = true) (hlast : call.request.faults.lastMessage = false) :
    Posting.isTooSoon (requestAt call.request now) st.tables call.info c.seconds = true ↔
      lastTime c st.tables ≠ 0 ∧ now < lastTime c st.tables + c.seconds * second := by
  rw [Setting.has, Bool.and_eq_true, decide_eq_true_eq, decide_eq_true_eq] at hhas
  obtain ⟨ident, hident, hgaia⟩ := hin.identity
  have hget : Posting.getLastMessageTimestamp (requestAt call.request now) st.tables call.info =
      some (lastTime c st.tables) := by
    simp only [Posting.getLastMessageTimestamp, requestAt, hlast, hhas.1, hident, hhas.2, Bool.false_eq_true, if_false,
      Option.map_some, hgaia]
    rfl
  have hsoon : Posting.isTooSoon (requestAt call.request now) st.tables call.info c.seconds =
      (decide ((lastTime c st.tables : Int) ≠ 0) &&
        decide ((now : Int) < lastTime c st.tables + (c.seconds * second : Nat))) := by
    rw [Posting.isTooSoon, hget, toInt_seconds hin.fits]
    push_cast
    rfl
  grind

theorem not_tooSoon_of_old (hin : c.In st) (hhas : c.has call = true) (hlast : call.request.faults.lastMessage = false)
    (hold : ∀ id e, st.tables.envelopes.get? id = some e → c.hasRow e = true →
      parseTime e.createdAt + c.seconds * second ≤ now) :
    Posting.isTooSoon (requestAt call.request now) st.tables call.info c.seconds = false := by
  rw [← Bool.not_eq_true, isTooSoon_iff hin hhas hlast]
  rintro ⟨hne, hsoon⟩
  unfold lastTime at hne hsoon
  generalize hfirst : st.tables.envelopes.first? _ _ = found at hne hsoon
  cases found with
  | none => exact hne rfl
  | some id =>
    obtain ⟨e, he, hrow⟩ := Table.first?_some hfirst
    rw [Option.bind_some, he, Option.map_some, Option.getD_some] at hsoon
    have := hold id e he hrow
    omega

theorem waited_of_not_tooSoon (hin : c.In st) (hhas : c.has call = true)
    (hlast : call.request.faults.lastMessage = false)
    (hpass : Posting.isTooSoon (requestAt call.request now) st.tables call.info c.seconds = false) {id : UUID}
    {e : Posting.Envelope} (he : st.tables.envelopes.get? id = some e) (hrow : c.hasRow e = true)
    (hmax : ∀ id' e', st.tables.envelopes.get? id' = some e' → c.hasRow e' = true → e'.createdAt ≤ e.createdAt)
    (hne : parseTime e.createdAt ≠ 0) : parseTime e.createdAt + c.seconds * second ≤ now := by
  have htime : lastTime c st.tables = parseTime e.createdAt := by
    unfold lastTime
    generalize hfirst : st.tables.envelopes.first? _ _ = found
    cases found with
    | none =>
      grind [Table.first?_none]
    | some first =>
      obtain ⟨e', he', hrow'⟩ := Table.first?_some hfirst
      have hnotBefore := Table.first?_minimal (fun a b h => decide_eq_false (lt_asymm (of_decide_eq_true h)))
        (fun a b d hab hbd => by
          simp only [decide_eq_false_iff_not, not_lt] at hab hbd ⊢
          exact hab.trans hbd) hfirst he' he hrow
      grind
  grind [isTooSoon_iff]

theorem check_eq {st' : Posting.Store} {room : Room} {member : Posting.Member} (hhas : c.has call = true)
    (hname : parse call.info.roomID = some c.roomID) (hread : call.request.faults.room = false)
    (hroom : st'.rooms.get? c.roomID = some room)
    (hmember : (room.members.find? fun member => member.identityID = c.senderID) = some member) :
    check now st' call = (do
      checkSender (requestAt call.request now) st'.tables
      checkMember (requestAt call.request now) st'.tables call.info room member) := by
  rw [Setting.has, Bool.and_eq_true, decide_eq_true_eq] at hhas
  unfold check
  rw [@Posting.checkRoom_named (requestAt call.request now) _ _ _ _ _ hname hread hroom]
  grind [requestAt]

theorem check_relaxed (hin : c.In st) (hhas : c.has call = true) (hname : parse call.info.roomID = some c.roomID)
    (hread : call.request.faults.room = false)
    (hpass : Posting.isTooSoon (requestAt call.request now) st.tables call.info c.seconds = false) :
    check now st call = check now (relaxed st c.roomID) call := by
  obtain ⟨room, member, hroom, hseconds, hmember, -⟩ := hin.room
  have hrelaxed : (relaxed st c.roomID).rooms.get? c.roomID = some { room with slowModeSeconds := 0 } := by
    simp [relaxed, hroom]
  rw [check_eq hhas hname hread hroom hmember, check_eq hhas hname hread hrelaxed hmember]
  simp only [checkMember, hseconds, hpass, relaxed]
  simp

theorem not_tooSoon_of_check (hin : c.In st) (hhas : c.has call = true) (hname : parse call.info.roomID = some c.roomID)
    (hread : call.request.faults.room = false) (hcheck : check now st call = .ok ()) :
    Posting.isTooSoon (requestAt call.request now) st.tables call.info c.seconds = false := by
  obtain ⟨room, member, hroom, hseconds, hmember, hplain⟩ := hin.room
  rw [check_eq hhas hname hread hroom hmember] at hcheck
  obtain ⟨⟨⟩, -, h⟩ := bind_eq_ok.1 hcheck
  obtain ⟨⟨⟩, -, h⟩ := bind_eq_ok.1 h
  obtain ⟨⟨⟩, -, h⟩ := bind_eq_ok.1 h
  obtain ⟨⟨⟩, -, h⟩ := bind_eq_ok.1 h
  rw [Setting.has, Bool.and_eq_true, decide_eq_true_eq, decide_eq_true_eq] at hhas
  have hpositive : c.seconds ≠ 0 := hin.positive.ne'
  grind [hin.channel]

end Limiter

/-! ## The delivery -/

/-- The stored messages of the member in the channel are the same. -/
def SameRows (t t' : Tables) : Prop :=
  ∀ id e, c.hasRow e = true → (t'.envelopes.get? id = some e ↔ t.envelopes.get? id = some e)

section Delivery

variable {c} {st : Posting.Store} {call : Call} {now : Nat}

theorem deliver_identities (req : Posting.Request) (t : Tables) (info : Meta) :
    (deliver req t info).1.identities = t.identities := by
  obtain ⟨queue, err, hdeliver⟩ | ⟨ident, localServerName, -, -, hdeliver⟩ := Posting.deliver_cases req t info
  · rw [hdeliver]
  · rw [hdeliver]
    rfl

theorem deliver_other (hin : c.In st) (hother : c.has call = false) :
    SameRows c st.tables (deliver (requestAt call.request now) st.tables call.info).1 := by
  intro id e hrow
  obtain ⟨queue, err, hdeliver⟩ | ⟨ident, localServerName, hident, hfree, hdeliver⟩ :=
    Posting.deliver_cases (requestAt call.request now) st.tables call.info
  · rw [hdeliver]
  · rw [hdeliver, Posting.get?_delivered hfree]
    split
    · rename_i hid
      rw [hid, hfree]
      refine iff_of_false (fun hnew => ?_) (by simp)
      obtain rfl := Option.some.inj hnew
      rw [Setting.hasRow, Bool.and_eq_true, decide_eq_true_eq, decide_eq_true_eq] at hrow
      -- the GaiaID is the member's alone
      have hsender : call.request.senderID = c.senderID := hin.unique _ ident hident hrow.1
      have hchannel : call.info.channelID = c.channelID := hrow.2
      grind [Setting.has]
    · exact Iff.rfl

theorem deliver_failed {err : PostError}
    (hfailed : (deliver (requestAt call.request now) st.tables call.info).2 = .error err) :
    SameRows c st.tables (deliver (requestAt call.request now) st.tables call.info).1 := by
  obtain ⟨queue, err', hdeliver⟩ | ⟨ident, localServerName, -, -, hdeliver⟩ :=
    Posting.deliver_cases (requestAt call.request now) st.tables call.info
  · rw [hdeliver]
    exact fun _ _ _ => Iff.rfl
  grind

theorem deliver_saved (hin : c.In st) (hhas : c.has call = true) {id : UUID}
    (hsaved : (deliver (requestAt call.request now) st.tables call.info).2 = .ok id) :
    ∃ e, c.hasRow e = true ∧ e.createdAt = formatTime now ∧
      (deliver (requestAt call.request now) st.tables call.info).1.envelopes.get? id = some e ∧
      ∀ id' e', (deliver (requestAt call.request now) st.tables call.info).1.envelopes.get? id' = some e' →
        e' = e ∨ st.tables.envelopes.get? id' = some e' := by
  obtain ⟨queue, err, hdeliver⟩ | ⟨ident, localServerName, hident, hfree, hdeliver⟩ :=
    Posting.deliver_cases (requestAt call.request now) st.tables call.info
  · rw [hdeliver] at hsaved
    cases hsaved
  · rw [hdeliver] at hsaved ⊢
    obtain rfl := Except.ok.inj hsaved
    rw [Setting.has, Bool.and_eq_true, decide_eq_true_eq, decide_eq_true_eq] at hhas
    obtain ⟨ident', hident', hgaia⟩ := hin.identity
    have hsame : some ident' = some ident := by
      rw [← hident', ← hident]
      exact congrArg st.tables.identities.get? hhas.1.symm
    refine ⟨_, ?_, ?_, (Posting.get?_delivered hfree ..).trans (if_pos rfl), fun id' e' he' => ?_⟩
    · grind [Setting.hasRow, Posting.Message.row, Posting.envelope]
    · rfl
    · rw [Posting.get?_delivered hfree] at he'
      split at he'
      · exact .inl (Option.some.inj he').symm
      exact .inr he'

end Delivery

/-! ## The invariant -/

/-- No stored message of the member in the channel has a later text than one whose time is not before `time`. -/
def Covered (t : Tables) (time : Nat) : Prop :=
  ∃ last id e, time ≤ last ∧ InRange last ∧ t.envelopes.get? id = some e ∧ c.hasRow e = true ∧
    e.createdAt = formatTime last ∧
    ∀ id' e', t.envelopes.get? id' = some e' → c.hasRow e' = true → e'.createdAt ≤ e.createdAt

/-- Messages are apart, and a call that has been checked has waited since those of other messages. -/
structure Inv (p : System) : Prop where
  setting : c.In p.shared.store
  past : ∀ n message time, Saved c p n message time ∨ Checked c p n message time → time ≤ p.shared.clock
  covered : ∀ n message time, Saved c p n message time → Covered c p.shared.store.tables time
  spaced : Spaced c p
  waited : ∀ n message time n' message' time', Checked c p n message time → Saved c p n' message' time' →
    message ≠ message' → time' + c.seconds * second ≤ time

section Steps

variable {c} {p : System} {n now : Nat} {call : Call}

theorem Setting.In.congr {st st' : Posting.Store} (h : c.In st) (hrooms : st'.rooms = st.rooms)
    (hidentities : st'.tables.identities = st.tables.identities) : c.In st' where
  room := by rw [hrooms]; exact h.room
  positive := h.positive
  fits := h.fits
  channel := h.channel
  identity := by rw [hidentities]; exact h.identity
  unique := by rw [hidentities]; exact h.unique

theorem Covered.congr {t t' : Tables} {time : Nat} (h : Covered c t time) (hrows : SameRows c t t') :
    Covered c t' time := by
  obtain ⟨last, id, e, hle, hrange, he, hrow, hcreated, hmax⟩ := h
  exact ⟨last, id, e, hle, hrange, (hrows id e hrow).2 he, hrow, hcreated,
    fun id' e' he' hrow' => hmax id' e' ((hrows id' e' hrow').1 he') hrow'⟩

theorem Inv.keep {p' : System} (h : Inv c p) (hin : c.In p'.shared.store) (hclock : p.shared.clock ≤ p'.shared.clock)
    (hrows : SameRows c p.shared.store.tables p'.shared.store.tables)
    (hsaved : ∀ n message time, Saved c p' n message time → Saved c p n message time)
    (hchecked : ∀ n message time, Checked c p' n message time → Checked c p n message time) : Inv c p' where
  setting := hin
  past n message time htime :=
    (h.past n message time (htime.imp (hsaved n message time) (hchecked n message time))).trans hclock
  covered n message time htime := (h.covered n message time (hsaved n message time htime)).congr hrows
  spaced n message time n' message' time' hfirst hsecond :=
    h.spaced n message time n' message' time' (hsaved _ _ _ hfirst) (hsaved _ _ _ hsecond)
  waited n message time n' message' time' hfirst hsecond :=
    h.waited n message time n' message' time' (hchecked _ _ _ hfirst) (hsaved _ _ _ hsecond)

/-- What a call has reached after a step of one of them, that one has reached, or it was so before. -/
theorem reached_put {timeOf : Call → Option Nat} {s : Shared} {call' : Call} {k message time : Nat}
    (h : Reached c timeOf ⟨s, p.calls.put n call'⟩ k message time) :
    (k = n ∧ c.has call' = true ∧ call'.message = message ∧ timeOf call' = some time) ∨
      Reached c timeOf p k message time := by
  grind [Reached]

theorem inv_start (h : Inv c p) (r : RoomCall) : Inv c (step p (.start n r)) := by
  have hold : ∀ timeOf k message time, timeOf (submit r) = none → Reached c timeOf (step p (.start n r)) k message time →
      Reached c timeOf p k message time := by
    rintro timeOf k message time hnone ⟨other, hother, hhas, hmessage, htime⟩
    obtain hbefore | rfl := Pool.get?_start hother <;> grind [Reached]
  exact h.keep h.setting le_rfl (fun _ _ _ => Iff.rfl) (fun k message time => hold _ k message time rfl)
    fun k message time => hold _ k message time rfl

theorem inv_same (h : Inv c p) (hcall : p.calls.get? n = some call) (hclock : p.shared.clock ≤ now) :
    Inv c ⟨⟨p.shared.store, now⟩, p.calls.put n call⟩ := by
  have hold : ∀ timeOf k message time,
      Reached c timeOf ⟨⟨p.shared.store, now⟩, p.calls.put n call⟩ k message time → Reached c timeOf p k message time := by
    grind [Reached]
  exact h.keep h.setting hclock (fun _ _ _ => Iff.rfl) (hold _) (hold _)

theorem inv_idle (h : Inv c p) {s : Shared} {stage : Stage} (hin : c.In s.store) (hclock : p.shared.clock ≤ s.clock)
    (hrows : SameRows c p.shared.store.tables s.store.tables)
    (hidle : c.has call = true → (⟨call.message, call.request, stage⟩ : Call).savedAt = none ∧
      (⟨call.message, call.request, stage⟩ : Call).checkedAt = none) :
    Inv c ⟨s, p.calls.put n ⟨call.message, call.request, stage⟩⟩ := by
  refine h.keep hin hclock hrows ?_ ?_
  · intro k message time hsaved
    obtain ⟨-, hhas, -, htime⟩ | hold := reached_put hsaved
    · rw [(hidle hhas).1] at htime
      cases htime
    · exact hold
  · intro k message time hchecked
    obtain ⟨-, hhas, -, htime⟩ | hold := reached_put hchecked
    · rw [(hidle hhas).2] at htime
      cases htime
    · exact hold

theorem inv_checked (h : Inv c p) (hhas : c.has call = true) (hclock : p.shared.clock ≤ now)
    (hname : parse call.info.roomID = some c.roomID) (hread : call.request.faults.room = false)
    (hlast : call.request.faults.lastMessage = false) (hcheck : check now p.shared.store call = .ok ()) :
    Inv c ⟨⟨p.shared.store, now⟩, p.calls.put n ⟨call.message, call.request, .checked now⟩⟩ := by
  have hpass := not_tooSoon_of_check h.setting hhas hname hread hcheck
  have hwaited : ∀ k message time, Saved c p k message time → time + c.seconds * second ≤ now := by
    intro k message time hsaved
    obtain ⟨last, id, e, hle, hrange, he, hrow, hcreated, hmax⟩ := h.covered k message time hsaved
    have htime : parseTime e.createdAt = last := by rw [hcreated, parseTime_formatTime hrange.2]
    have hwait := waited_of_not_tooSoon h.setting hhas hlast hpass he hrow hmax (by rw [htime]; exact hrange.1)
    omega
  have hsaved : ∀ k message time,
      Saved c ⟨⟨p.shared.store, now⟩, p.calls.put n ⟨call.message, call.request, .checked now⟩⟩ k message time →
        Saved c p k message time := by
    intro k message time hnew
    obtain ⟨-, -, -, htime⟩ | hold := reached_put hnew
    · cases htime
    · exact hold
  constructor
  · exact h.setting
  · rintro k message time (hnew | hnew)
    · exact (h.past k message time (.inl (hsaved k message time hnew))).trans hclock
    · obtain ⟨-, -, -, htime⟩ | hold := reached_put hnew
      · obtain rfl := Option.some.inj htime
        exact le_rfl
      · exact (h.past k message time (.inr hold)).trans hclock
  · grind [h.covered]
  · grind [h.spaced, Spaced]
  · intro k message time k' message' time' hfirst hsecond hne
    obtain ⟨-, -, -, htime⟩ | hold := reached_put hfirst
    · obtain rfl := Option.some.inj htime <;> grind
    · exact h.waited k message time k' message' time' hold (hsaved _ _ _ hsecond) hne

theorem inv_saved (h : Inv c p) (hcall : p.calls.get? n = some call) (hhas : c.has call = true) {checkedAt : Nat}
    (hstage : call.stage = .checked checkedAt) (hclock : p.shared.clock ≤ now) (hrange : InRange now)
    (horder : InOrder c p now call) {id : UUID}
    (hsaved : (deliver (requestAt call.request now) p.shared.store.tables call.info).2 = .ok id) :
    Inv c ⟨⟨{ p.shared.store with
        tables := (deliver (requestAt call.request now) p.shared.store.tables call.info).1 }, now⟩,
      p.calls.put n ⟨call.message, call.request, .saved id now⟩⟩ := by
  unfold InOrder at horder
  simp only [hstage] at horder
  obtain ⟨hothers, htexts⟩ := horder
  have hchecked : Checked c p n call.message checkedAt := ⟨call, hcall, hhas, rfl, by rw [Call.checkedAt, hstage]⟩
  obtain ⟨e, hrow, hcreated, he, hnew⟩ := deliver_saved h.setting hhas hsaved
  have hcovered : ∀ time ≤ now,
      Covered c (deliver (requestAt call.request now) p.shared.store.tables call.info).1 time := by
    grind [Covered]
  have hpast : ∀ k message time, Saved c p k message time → time ≤ now :=
    fun k message time hold => (h.past k message time (.inl hold)).trans hclock
  -- those of other messages were saved before the check
  have hapart : ∀ k message time, Saved c p k message time → call.message ≠ message →
      time + c.seconds * second ≤ now := by
    intro k message time hold hne
    have hwaited := h.waited n call.message checkedAt k message time hchecked hold hne
    have hle := h.past n call.message checkedAt (.inr hchecked)
    omega
  constructor
  · exact h.setting.congr rfl (deliver_identities ..)
  · rintro k message time (hreached | hreached)
    · obtain ⟨-, -, -, htime⟩ | hold := reached_put hreached
      · obtain rfl := Option.some.inj htime
        exact le_rfl
      · exact hpast k message time hold
    · obtain ⟨-, -, -, htime⟩ | hold := reached_put hreached
      · cases htime
      · exact (h.past k message time (.inr hold)).trans hclock
  · intro k message time hreached
    obtain ⟨-, -, -, htime⟩ | hold := reached_put hreached
    · obtain rfl := Option.some.inj htime
      exact hcovered _ le_rfl
    grind
  · intro k message time k' message' time' hfirst hsecond hne
    obtain ⟨-, -, rfl, htime⟩ | hold := reached_put hfirst
    · obtain rfl := Option.some.inj htime
      obtain ⟨-, -, rfl, -⟩ | hold' := reached_put hsecond <;> grind
    · obtain ⟨-, -, rfl, htime'⟩ | hold' := reached_put hsecond
      · obtain rfl := Option.some.inj htime' <;> grind
      · exact h.spaced k message time k' message' time' hold hold' hne
  · intro k message time k' message' time' hfirst hsecond hne
    obtain ⟨-, -, -, htime⟩ | hold := reached_put hfirst
    · cases htime
    · obtain ⟨-, -, rfl, -⟩ | hold' := reached_put hsecond
      · obtain ⟨other, hother, hhas', rfl, htime⟩ := hold <;> grind
      · exact h.waited k message time k' message' time' hold hold' hne

theorem inv_step {e : Event} (h : Inv c p) (hok : Orderly c p e) : Inv c (step p e) := by
  refine Pool.step_cases h (fun n r _ => inv_start h r) ?_
  rintro n now call rfl hcall
  obtain ⟨hclock, hrange, horder⟩ := hok
  rw [Pool.step_advance hcall]
  cases hstage : call.stage with
  | submitted =>
    have hnext : next now p.shared call = (⟨p.shared.store, now⟩,
        ⟨call.message, call.request, checkedStage now (check now p.shared.store call)⟩) := by
      simp only [next, nextStage, hstage]
    rw [hnext]
    cases hcheck : check now p.shared.store call with
    | error err => exact inv_idle h h.setting hclock (fun _ _ _ => Iff.rfl) fun _ => ⟨rfl, rfl⟩
    | ok =>
      cases hhas : c.has call with
      | false =>
        refine inv_idle h h.setting hclock (fun _ _ _ => Iff.rfl) fun hhas' => ?_
        rw [hhas] at hhas'
        cases hhas'
      | true =>
        have hin := horder call hcall hhas
        unfold InOrder at hin
        simp only [hstage] at hin
        obtain ⟨hname, hread, hlast, -⟩ := hin
        exact inv_checked h hhas hclock hname hread hlast hcheck
  | checked time =>
    have hnext : next now p.shared call = (⟨{ p.shared.store with
          tables := (deliver (requestAt call.request now) p.shared.store.tables call.info).1 }, now⟩,
        ⟨call.message, call.request,
          savedStage now (deliver (requestAt call.request now) p.shared.store.tables call.info).2⟩) := by
      simp only [next, nextStage, hstage]
    have hin : c.In { p.shared.store with
        tables := (deliver (requestAt call.request now) p.shared.store.tables call.info).1 } :=
      h.setting.congr rfl (deliver_identities ..)
    rw [hnext]
    cases hhas : c.has call with
    | false =>
      grind [inv_idle, deliver_other, h.setting]
    | true =>
      cases hresult : (deliver (requestAt call.request now) p.shared.store.tables call.info).2 with
      | error err => exact inv_idle h hin hclock (deliver_failed hresult) fun _ => ⟨rfl, rfl⟩
      | ok id => grind [inv_saved, savedStage]
  | saved id time | failed err =>
    have hnext : next now p.shared call = (⟨p.shared.store, now⟩, call) := by
      simp only [next, nextStage, hstage]
      rw [← hstage]
    grind [inv_same]

theorem unhindered_of_orderly {e : Event} (h : Inv c p) (hok : Orderly c p e) : Unhindered c p e := by
  cases e with
  | start n r => trivial
  | advance n now =>
    intro call hcall hhas hstage hquiet
    have hin := hok.2.2 call hcall hhas
    unfold InOrder at hin
    simp only [hstage] at hin
    obtain ⟨hname, hread, hlast, hfirst⟩ := hin
    refine check_relaxed h.setting hhas hname hread (not_tooSoon_of_old h.setting hhas hlast fun id e he hrow => ?_)
    obtain ⟨r, hr, hmessage, hsaved⟩ | hold := hquiet id e he hrow
    · rw [hfirst r hr hmessage] at hsaved
      cases hsaved
    · exact hold

end Steps

def sampleSetting : Setting := ⟨.ofByte 7, .ofByte 1, "@a:x", "c", 60⟩

def sampleStore : Posting.Store where
  rooms := Table.empty.insertOrIgnore (.ofByte 7) ⟨false, false, 60, [⟨.ofByte 1, "member"⟩, ⟨.ofByte 2, "owner"⟩]⟩
  channels := Table.empty
  tables := { Posting.sampleStore.tables with
    identities := (Table.empty.insertOrIgnore (.ofByte 1) ⟨.ofByte 11, "@a:x", "", true⟩).insertOrIgnore (.ofByte 2)
      ⟨.ofByte 12, "@b:x", "", true⟩ }

theorem sample_setting : sampleSetting.In sampleStore where
  room := ⟨_, _, rfl, rfl, rfl, rfl⟩
  positive := by decide
  fits := by decide
  channel := by decide
  identity := ⟨_, rfl, rfl⟩
  unique := by
    intro id ident hident hgaia
    have hrows : ∀ r ∈ sampleStore.tables.identities.rows, r.2.gaiaID = "@a:x" → r.1 = .ofByte 1 := by decide +kernel
    exact hrows (id, ident) (Table.get?_eq_some.1 hident) hgaia

def sampleCall (message : Nat) (recipientID id : UInt8) : RoomCall where
  message := message
  request := { Posting.sampleRequest
      "\x7b\"room_id\":\"07000000-0000-0000-0000-000000000000\",\"channel_id\":\"c\"\x7d" with
    userID := .ofByte 11, senderID := .ofByte 1, recipientIDs := [.ofByte recipientID], envelopeID := .ofByte id }

def sampleTime : Nat := 63919886400 * second

def sampleOrderly : List Event :=
  [.start 1 (sampleCall 1 2 21), .start 2 (sampleCall 1 1 22), .advance 1 sampleTime, .advance 2 sampleTime,
    .advance 1 sampleTime, .advance 2 sampleTime, .start 3 (sampleCall 2 2 23), .advance 3 (sampleTime + 60 * second),
    .advance 3 (sampleTime + 60 * second)]

def sampleOverlap : List Event :=
  [.start 1 (sampleCall 1 2 21), .start 2 (sampleCall 2 2 22), .advance 1 sampleTime, .advance 2 sampleTime,
    .advance 1 sampleTime, .advance 2 sampleTime]

def sampleBase (id : UInt8) : Posting.Request :=
  { Posting.sampleRequest "" with userID := .ofByte 11, senderID := .ofByte 1, envelopeID := .ofByte id }

def sampleCopy (messageID : UInt8) : Fanout.Envelope :=
  (Fanout.sampleEnvelope (.ofByte messageID)).with ⟨none, some (UUID.ofByte 7).text, some "c", none⟩

def samplePost (messageID recipientID id : UInt8) : Posting.Request :=
  requestFor (sampleBase id) (.ofByte 1) (.ofByte recipientID) (sampleCopy messageID)

def sampleSend (messageID recipientID id : UInt8) : Except Fanout.SealError (List Posting.Request) :=
  handleSendGroupMessage Fanout.sampleCrypto ⟨"", false, ""⟩ none (UUID.ofByte 7).text "c" (.ofByte 1)
    (.ofByte recipientID) Fanout.sampleKeys (.ofByte messageID) 1784289600000 Fanout.sampleSealed (sampleBase id)

theorem sampleSend_eq (messageID recipientID id : UInt8) :
    sampleSend messageID recipientID id = .ok [samplePost messageID recipientID id] := by
  rw [sampleSend, handleSendGroupMessage, Fanout.sample_encrypted]
  rfl

theorem sample_checkSender {messageID : UInt8} (h : messageID ∈ [5, 6]) (recipientID id : UInt8) (t : Tables)
    (hidentities : t.identities = sampleStore.tables.identities) :
    checkSender (samplePost messageID recipientID id) t = .ok () := by
  have hsize : (samplePost messageID recipientID id).envelopeData.length = 597 :=
    (Fanout.sample_sizes messageID h).2.2
  simp only [checkSender, hsize, Posting.identityBelongsToUser, hidentities]
  rfl

end GaiaCom.Messaging.SlowMode
