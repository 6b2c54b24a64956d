/-
Inbound deduplication: `ClaimInbound` on the table transport_inbox_dedup. One call is one
transaction, so it is one step, and a call that fails leaves the table as it was. Between an
accepted envelope and its recorded expiry, later calls for it are recognised if they spell the id
as it was stored (`parse` accepts both cases of a digit, the key is the text) and do not come at an
instant that is stored as a shortened text of the expiry.
-/
import GaiaCom.Lib.Run
import GaiaCom.Lib.Table
import GaiaCom.Store.Column
import GaiaCom.TransportQueue.Envelope

namespace GaiaCom.TransportQueue

open Lib Lib.Calendar Core Store

/-! ## The table and the call -/

/-- A row of transport_inbox_dedup under its `envelope_id`. -/
structure InboxRow where
  payloadHash : Digest
  receivedVia : String
  firstSeenAt : String
  expiresAt : String
  deriving DecidableEq

/-- The table transport_inbox_dedup. -/
abbrev Inbox := Table String InboxRow

/-- `InboundClaim`. -/
inductive InboundClaim where
  | accepted | duplicate
  deriving DecidableEq, Repr

/-- The arguments of a `ClaimInbound` call. -/
structure Inbound where
  envelopeID : String
  payloadHash : Digest
  via : Transport
  now : Nat
  expiresAt : Nat

/-- The input checks of `ClaimInbound`. -/
def Inbound.ok (a : Inbound) : Bool :=
  envelopeOk a.envelopeID "inbound" [1] [1] a.via 0 a.now a.expiresAt && a.via.validSingle

def Inbound.row (a : Inbound) : InboxRow where
  payloadHash := a.payloadHash
  receivedVia := a.via.name
  firstSeenAt := formatTime a.now
  expiresAt := formatTime a.expiresAt

/-- The `DELETE` of a call: its id's row if that has expired by the stored texts. -/
def dropExpired (s : Inbox) (a : Inbound) : Inbox :=
  s.deleteWhere fun k r => k = a.envelopeID && r.expiresAt ≤ formatTime a.now

/-- `ClaimInbound`; an error rolls the transaction back. -/
def claimInbound (s : Inbox) (a : Inbound) : Inbox × Except QueueError InboundClaim :=
  if !a.ok then (s, .error .invalidInput)
  else
    match (dropExpired s a).get? a.envelopeID with
    | none => ((dropExpired s a).insertOrIgnore a.envelopeID a.row, .ok .accepted)
    | some r => if r.payloadHash ≠ a.payloadHash then (s, .error .conflict) else (dropExpired s a, .ok .duplicate)

def inboxStep (s : Inbox) (a : Inbound) : Inbox := (claimInbound s a).1

/-! ## What one call does -/

variable {a : Inbound} {s : Inbox}

theorem claimInbound_error {err : QueueError} (h : (claimInbound s a).2 = .error err) : (claimInbound s a).1 = s := by
  unfold claimInbound at h ⊢
  grind

/-- The call `a` is recorded: its row is in the table with its hash and its expiry. -/
def Recorded (a : Inbound) (s : Inbox) : Prop :=
  ∃ r, s.get? a.envelopeID = some r ∧ r.payloadHash = a.payloadHash ∧ r.expiresAt = formatTime a.expiresAt

theorem recorded_of_accepted (h : (claimInbound s a).2 = .ok .accepted) : a.ok = true ∧ Recorded a (inboxStep s a) := by
  unfold inboxStep
  unfold claimInbound at h ⊢
  cases hok : a.ok with
  | false => simp [hok] at h
  | true =>
    simp only [hok, Bool.not_true, Bool.false_eq_true, if_false] at h ⊢
    split at h
    · rename_i hg
      exact ⟨trivial, a.row, by simp [hg], rfl, rfl⟩
    · split at h <;> cases h

theorem recorded_other {x : Inbound} (hr : Recorded a s) (hne : x.envelopeID ≠ a.envelopeID) :
    Recorded a (inboxStep s x) := by
  obtain ⟨r, hg, hh, he⟩ := hr
  refine ⟨r, ?_, hh, he⟩
  have hdrop : (dropExpired s x).get? a.envelopeID = some r := by
    simp [dropExpired, hg, hne.symm]
  grind [inboxStep, claimInbound, Table.get?_insertOrIgnore]

/-- A call for the recorded id while its row has not expired by the stored texts: the record
stays, and the answer is decided by the hashes. -/
theorem recorded_same {x : Inbound} (hr : Recorded a s) (hid : x.envelopeID = a.envelopeID)
    (hlive : ¬ formatTime a.expiresAt ≤ formatTime x.now) : Recorded a (inboxStep s x) ∧ (x.ok = true →
      (claimInbound s x).2 = if x.payloadHash = a.payloadHash then .ok .duplicate else .error .conflict) := by
  obtain ⟨r, hg, hh, he⟩ := hr
  have hdrop : (dropExpired s x).get? x.envelopeID = some r := by
    simp [dropExpired, hid, hg, he, hlive]
  constructor
  · grind [inboxStep, claimInbound, Recorded]
  · intro hok
    unfold claimInbound
    rw [hok, hdrop]
    simp only [Bool.not_true, Bool.false_eq_true, if_false, hh]
    by_cases heq : x.payloadHash = a.payloadHash
    · simp [heq]
    · simp [heq, Ne.symm heq]

/-! ## Until the recorded expiry -/

theorem live_text {now expiry : Nat} (hnow : now ≠ 0) (hlt : now < expiry) (hy : year (dayOf expiry) ≤ 9999)
    (hcut : ¬ Shortened now expiry) : ¬ formatTime expiry ≤ formatTime now := by
  rw [not_le, formatTime_lt_iff ⟨hnow, (year_le_of_le hlt.le).trans hy⟩ ⟨by omega, hy⟩ hlt]
  exact fun hc => hcut ⟨ne_of_lt hlt, hc⟩

/-- The condition under which a later call `x` for the UUID of `a` is recognised: the id is spelled
as it was stored and the clock does not read the recorded expiry with fraction digits cut off. -/
def Recognisable (a x : Inbound) : Prop :=
  parse x.envelopeID = parse a.envelopeID → x.envelopeID = a.envelopeID ∧ ¬ Shortened x.now a.expiresAt

theorem exec_recorded {a : Inbound} (hnow : a.now ≠ 0) (hy : year (dayOf a.expiresAt) ≤ 9999) :
    ∀ {xs : List Inbound} {s : Inbox}, Recorded a s → (∀ x ∈ xs, Recognisable a x) →
      (∀ x ∈ xs, a.now ≤ x.now ∧ x.now < a.expiresAt) → Recorded a (exec inboxStep s xs)
  | [], _, h, _, _ => h
  | x :: xs, s, h, hrec, hclock => by
    rw [List.forall_mem_cons] at hrec hclock
    rw [exec_cons]
    refine exec_recorded hnow hy ?_ hrec.2 hclock.2
    by_cases hid : x.envelopeID = a.envelopeID
    · obtain ⟨-, hcut⟩ := hrec.1 (by rw [hid])
      grind [recorded_same, live_text]
    · exact recorded_other h hid

def sampleInbound (id : String) (via : Transport) (wait : Nat) : Inbound where
  envelopeID := id
  payloadHash := ⟨List.replicate 32 7, rfl⟩
  via := via
  now := 63919890000 * second + wait
  expiresAt := 63919890000 * second + 24 * hour

/-- Inbound exactly-once: after any run, let call `a` be accepted, and let further calls follow
with clocks that do not go back, up to a call `b` for the same UUID before the expiry `a` recorded.
If all the calls from `a` to `b` are recognisable and `b` passes the input checks, then `b` is
answered as a duplicate if its hash is that of `a` and as a conflict otherwise. A call that
returns an error leaves the table unchanged in any case. -/
theorem inbound_exactly_once (es fs : List Inbound) (a b : Inbound)
    (ha : (claimInbound (exec inboxStep Table.empty es) a).2 = .ok .accepted)
    (hclock : (a :: (fs ++ [b])).Pairwise fun x y => x.now ≤ y.now) (hlive : b.now < a.expiresAt)
    (hy : year (dayOf a.expiresAt) ≤ 9999) (hid : parse b.envelopeID = parse a.envelopeID) (hb : b.ok = true)
    (hrec : ∀ x ∈ fs ++ [b], Recognisable a x) :
    (claimInbound (exec inboxStep Table.empty (es ++ a :: fs)) b).2 =
      (if b.payloadHash = a.payloadHash then .ok .duplicate else .error .conflict) ∧
    ∀ s x err, (claimInbound s x).2 = .error err → (claimInbound s x).1 = s := by
  refine ⟨?_, fun s x err => claimInbound_error⟩
  obtain ⟨hok, hrecorded⟩ := recorded_of_accepted ha
  have hnow : a.now ≠ 0 := by
    simp only [Inbound.ok, envelopeOk, Bool.and_eq_true, bne_iff_ne] at hok
    exact hok.1.1.1.2
  rw [List.pairwise_cons, List.pairwise_append] at hclock
  have hfs : ∀ x ∈ fs, a.now ≤ x.now ∧ x.now < a.expiresAt := fun x hx =>
    ⟨hclock.1 x (List.mem_append_left _ hx), (hclock.2.2.2 x hx b (List.mem_singleton_self b)).trans_lt hlive⟩
  have hbnow : a.now ≤ b.now := hclock.1 b (by simp)
  obtain ⟨hspell, hcut⟩ := hrec b (by simp) hid
  have hend := exec_recorded hnow hy hrecorded (fun x hx => hrec x (List.mem_append_left _ hx)) hfs
  rw [exec_append, exec_cons]
  exact (recorded_same hend hspell (live_text (by omega) hlive hy hcut)).2 hb

/-- The same envelope over Bluetooth and one second later over the internet is a duplicate. -/
theorem inbound_duplicate_next_second :
    (claimInbound (exec inboxStep Table.empty
      ([] ++ [sampleInbound "018f4d1e-7614-7a3a-8e37-61f0f75a0003" Transport.bluetooth 0]))
      (sampleInbound "018f4d1e-7614-7a3a-8e37-61f0f75a0003" Transport.internet second)).2 = .ok .duplicate :=
  (inbound_exactly_once [] [] (sampleInbound "018f4d1e-7614-7a3a-8e37-61f0f75a0003" Transport.bluetooth 0)
    (sampleInbound "018f4d1e-7614-7a3a-8e37-61f0f75a0003" Transport.internet second) rfl
    (by simp [sampleInbound]) (by decide) (by decide) rfl (by decide)
    (by simp only [List.nil_append, List.forall_mem_singleton]; exact fun _ => ⟨rfl, by decide⟩)).1

/-- The same envelope with the hex digits of its id in upper case is accepted a second time. -/
theorem inbound_accepted_twice :
    parse "018F4D1E-7614-7A3A-8E37-61F0F75A0003" = parse "018f4d1e-7614-7a3a-8e37-61f0f75a0003" ∧
    (parse "018f4d1e-7614-7a3a-8e37-61f0f75a0003").isSome ∧
    (claimInbound Table.empty
      (sampleInbound "018f4d1e-7614-7a3a-8e37-61f0f75a0003" Transport.bluetooth 0)).2 = .ok .accepted ∧
    (claimInbound (exec inboxStep Table.empty
      [sampleInbound "018f4d1e-7614-7a3a-8e37-61f0f75a0003" Transport.bluetooth 0])
      (sampleInbound "018F4D1E-7614-7A3A-8E37-61F0F75A0003" Transport.internet second)).2 = .ok .accepted :=
  ⟨by decide, by decide, rfl, rfl⟩

-- An expiry at half a second past is stored below the whole second before it, so the row is dropped early.
example :
    let a := { sampleInbound "018f4d1e-7614-7a3a-8e37-61f0f75a0003" Transport.bluetooth 0 with
      expiresAt := 63919890001 * second + second / 2 }
    (claimInbound (exec inboxStep Table.empty [a]) { a with now := 63919890001 * second }).2 = .ok .accepted := rfl

end GaiaCom.TransportQueue
