/-
The audit chain of security events: `RecordSecurityEvent` reads the latest row of
security_audit_chain, hashes the event together with that row's hash and inserts both rows in a
transaction of its own. Which row is the latest is decided by the printed `created_at`, and
nothing keeps a second call from inserting between the read and the insertion. The chain is linear
as long as neither happens (`chain_linear`).
-/
import GaiaCom.Lib.HashChain
import GaiaCom.Lib.Run
import GaiaCom.Lib.Table
import GaiaCom.Store.Time

namespace GaiaCom.Security.Audit

open Lib Store

/-! ## Events and rows -/

/-- models.SecurityEvent, its texts as `sanitizeSecurityText` left them. -/
structure SecurityEvent where
  eventID : String
  ownerUserID : Option String
  ownerIdentityID : Option String
  nodeID : String
  category : String
  severity : String
  source : String
  summary : String
  action : String
  publicVisible : Bool
  userVisible : Bool
  nodeVisible : Bool
  createdAt : Nat

/-- The immutable context that is hashed. -/
structure AuditPayload where
  eventID : String
  previousHash : String
  ownerUserID : String
  ownerIdentityID : String
  nodeID : String
  category : String
  severity : String
  source : String
  summary : String
  action : String
  publicVisible : Bool
  userVisible : Bool
  nodeVisible : Bool
  createdAt : String

/-- models.SecurityAuditChain. -/
structure SecurityAuditChain where
  eventID : String
  previousHash : String
  eventHash : String
  createdAt : Nat
  signature : String

/-- A row of security_audit_chain, under its event_id. -/
structure ChainRow where
  previousHash : String
  eventHash : String
  createdAt : String
  signature : String
  deriving DecidableEq

/-- security_audit_chain, its rows in the order of insertion; triggers keep it append-only. -/
abbrev Chain := Table String ChainRow

def genesisHash : String := "0000000000000000000000000000000000000000000000000000000000000000"

def auditPayload (event : SecurityEvent) (prevHash : String) : AuditPayload where
  eventID := event.eventID
  previousHash := prevHash
  ownerUserID := event.ownerUserID.getD ""
  ownerIdentityID := event.ownerIdentityID.getD ""
  nodeID := event.nodeID
  category := event.category
  severity := event.severity
  source := event.source
  summary := event.summary
  action := event.action
  publicVisible := event.publicVisible
  userVisible := event.userVisible
  nodeVisible := event.nodeVisible
  createdAt := String.ofList (rfc3339Nano event.createdAt)

/-- `ORDER BY created_at DESC`; among equal texts SQLite takes whichever row it meets first. -/
def newer (tie : String → Nat) (a b : String × ChainRow) : Bool :=
  b.2.createdAt < a.2.createdAt || (b.2.createdAt = a.2.createdAt && tie a.1 < tie b.1)

def getLatestSecurityAuditChain (tie : String → Nat) (chain : Chain) : Option ChainRow :=
  (chain.first? (fun _ _ => true) (newer tie)).bind chain.get?

/-- The SHA-256 of the payload's JSON text and the node's HMAC of a hash, both in hex. -/
structure Digests where
  hash : AuditPayload → String
  sign : String → String

/-- `latest` is what `GetLatestSecurityAuditChain` returned; `none` also stands for its error. -/
def calculateAuditHash (d : Digests) (latest : Option ChainRow) (event : SecurityEvent) : SecurityAuditChain :=
  let prevHash := (latest.map ChainRow.eventHash).getD genesisHash
  let eventHash := d.hash (auditPayload event prevHash)
  { eventID := event.eventID
    previousHash := prevHash
    eventHash
    createdAt := event.createdAt
    signature := d.sign eventHash }

def SecurityAuditChain.row (audit : SecurityAuditChain) : ChainRow :=
  ⟨audit.previousHash, audit.eventHash, formatTime audit.createdAt, audit.signature⟩

/-- The chain's part of `SaveSecurityEvent`; a taken event id fails the transaction. -/
def saveSecurityEvent (audit : SecurityAuditChain) (chain : Chain) : Chain :=
  chain.insertOrIgnore audit.eventID audit.row

/-! ## Concurrent calls -/

/-- A call of `RecordSecurityEvent` between its read and its transaction. -/
structure Draft where
  audit : SecurityAuditChain
  /-- The number of rows when the latest one was read. -/
  seen : Nat

structure State where
  chain : Chain
  drafts : Nat → Option Draft

def State.init : State := ⟨Table.empty, fun _ => none⟩

inductive Event where
  /-- A call reads the latest row and computes its hash; `answered` is false if the read failed. -/
  | read (call : Nat) (event : SecurityEvent) (tie : String → Nat) (answered : Bool)
  /-- Its transaction, which may fail. -/
  | save (call : Nat) (reached : Bool)

variable (d : Digests)

def step (s : State) : Event → State
  | .read call event tie answered =>
    let latest := if answered then getLatestSecurityAuditChain tie s.chain else none
    let draft := ⟨calculateAuditHash d latest event, s.chain.size⟩
    { s with drafts := fun c => if c = call then some draft else s.drafts c }
  | .save call reached =>
    match s.drafts call with
    | none => s
    | some draft =>
      { chain := if reached then saveSecurityEvent draft.audit s.chain else s.chain
        drafts := fun c => if c = call then none else s.drafts c }

/-- Reads succeed. A transaction that goes through finds the chain as its call read it, its
`created_at` is printed above every stored one (it is later, and none of them is it with
trailing digits cut off), and its hash is new. -/
def Orderly (s : State) : Event → Prop
  | .read _ _ _ answered => answered = true
  | .save call reached =>
    ∀ draft ∈ s.drafts call, reached = true →
      draft.seen = s.chain.size ∧
      (∀ r ∈ s.chain.rows, r.2.createdAt < formatTime draft.audit.createdAt) ∧
      draft.audit.eventHash ∉ genesisHash :: s.chain.rows.map fun r => r.2.eventHash

instance (s : State) : (e : Event) → Decidable (Orderly s e)
  | .read _ _ _ answered => inferInstanceAs (Decidable (answered = true))
  | .save call reached =>
    inferInstanceAs (Decidable (∀ draft ∈ s.drafts call, reached = true →
      draft.seen = s.chain.size ∧
      (∀ r ∈ s.chain.rows, r.2.createdAt < formatTime draft.audit.createdAt) ∧
      draft.audit.eventHash ∉ genesisHash :: s.chain.rows.map fun r => r.2.eventHash))

/-! ## The chain is linear -/

abbrev Chain.hashes (chain : Chain) : List String := chain.rows.map fun r => r.2.eventHash

/-- A linear chain without collisions whose rows are printed in the order of insertion, and drafts
that name its tip unless a row came after their read. -/
structure Inv (s : State) : Prop where
  linked : Linked (fun r : String × ChainRow => r.2.previousHash) (fun r => r.2.eventHash) genesisHash s.chain.rows
  nodup : (genesisHash :: s.chain.hashes).Nodup
  sorted : s.chain.rows.Pairwise fun a b => a.2.createdAt < b.2.createdAt
  seen_le : ∀ call draft, s.drafts call = some draft → draft.seen ≤ s.chain.size
  draft : ∀ call draft, s.drafts call = some draft → draft.seen = s.chain.size →
    draft.audit.previousHash = tip (fun r : String × ChainRow => r.2.eventHash) genesisHash s.chain.rows

theorem inv_init : Inv .init where
  linked := trivial
  nodup := List.nodup_singleton _
  sorted := .nil
  seen_le _ _ h := by cases h
  draft _ _ h := by cases h

theorem getLatest_of_sorted {chain : Chain} (h : chain.rows.Pairwise fun a b => a.2.createdAt < b.2.createdAt)
    (tie : String → Nat) : getLatestSecurityAuditChain tie chain = chain.rows.getLast?.map Prod.snd := by
  have hp : chain.rows.Pairwise fun a b => newer tie b a = true := h.imp fun hlt => by simp [newer, hlt]
  unfold getLatestSecurityAuditChain Table.first?
  rw [List.filter_true, Table.least_eq_getLast? hp]
  cases hl : chain.rows.getLast? with
  | none => rfl
  | some r => exact Table.get?_eq_some.2 (List.mem_of_getLast? hl)

theorem calculateAuditHash_previousHash {chain : Chain}
    (h : chain.rows.Pairwise fun a b => a.2.createdAt < b.2.createdAt) (tie : String → Nat) (event : SecurityEvent) :
    (calculateAuditHash d (getLatestSecurityAuditChain tie chain) event).previousHash =
      tip (fun r : String × ChainRow => r.2.eventHash) genesisHash chain.rows := by
  grind [getLatest_of_sorted, calculateAuditHash, tip]

variable {s : State}

theorem inv_saveSecurityEvent (h : Inv s) {call : Nat} {draft : Draft} (hd : s.drafts call = some draft)
    (hseen : draft.seen = s.chain.size) (hlate : ∀ r ∈ s.chain.rows, r.2.createdAt < formatTime draft.audit.createdAt)
    (hnew : draft.audit.eventHash ∉ genesisHash :: s.chain.hashes) :
    Inv { s with chain := saveSecurityEvent draft.audit s.chain } := by
  unfold saveSecurityEvent Table.insertOrIgnore
  split
  · exact h
  constructor
  · exact linked_concat h.linked (h.draft call draft hd hseen)
  · simp only [Chain.hashes, List.map_append, List.map_singleton, ← List.cons_append]
    refine List.nodup_append.2 ⟨h.nodup, List.nodup_singleton _, fun a ha b hb hab => hnew ?_⟩
    rw [List.mem_singleton] at hb
    rw [hab, hb] at ha
    exact ha
  · grind [h.sorted, SecurityAuditChain.row]
  · intro c x hx
    have hle := h.seen_le c x hx
    grind [Table.size]
  · -- a draft read before this insertion has seen fewer rows
    intro c x hx hsx
    have hle := h.seen_le c x hx
    simp only [Table.size, List.length_append, List.length_singleton] at hsx hle
    omega

theorem Inv.drop (h : Inv s) {drafts : Nat → Option Draft}
    (hsub : ∀ c x, drafts c = some x → s.drafts c = some x) : Inv { s with drafts } where
  linked := h.linked
  nodup := h.nodup
  sorted := h.sorted
  seen_le c x hx := h.seen_le c x (hsub c x hx)
  draft c x hx := h.draft c x (hsub c x hx)

theorem inv_step {e : Event} (h : Inv s) (hok : Orderly s e) : Inv (step d s e) := by
  cases e with
  | read call event tie answered =>
    have hans : answered = true := hok
    subst hans
    refine ⟨h.linked, h.nodup, h.sorted, ?_, ?_⟩
    · intro c x hx
      simp only [step] at hx
      split at hx
      · cases hx; exact le_rfl
      exact h.seen_le c x hx
    grind [step, calculateAuditHash_previousHash, h.sorted, h.draft]
  | save call reached =>
    simp only [step]
    split
    · exact h
    rename_i draft hd
    have hsub : ∀ c x, (if c = call then none else s.drafts c) = some x → s.drafts c = some x := by
      grind
    cases reached with
    | false => exact h.drop hsub
    | true =>
      obtain ⟨hseen, hlate, hnew⟩ := hok draft hd rfl
      exact (inv_saveSecurityEvent h hd hseen hlate hnew).drop hsub

/-- The audit chain is linear: in every run of concurrent calls in which every read succeeds, no row
is inserted between a call's read and its transaction, every new `created_at` is printed above
the stored ones and no hash collides, the rows in the order of insertion form a chain from the
genesis hash, each naming the hash of the row right before it, and no two name the same hash. -/
theorem chain_linear (es : List Event) (h : Along (step d) Orderly .init es) :
    Linked (fun r : String × ChainRow => r.2.previousHash) (fun r => r.2.eventHash) genesisHash
        (exec (step d) .init es).chain.rows ∧
      ((exec (step d) .init es).chain.rows.map fun r => r.2.previousHash).Nodup := by
  have hinv := Along.invariant (P := Inv) (fun _ _ hs hok => inv_step d hs hok) inv_init h
  exact ⟨hinv.linked, hinv.linked.nodup_prev hinv.nodup⟩

def sampleEvent (eventID : String) (after : Nat) : SecurityEvent where
  eventID := eventID
  ownerUserID := none
  ownerIdentityID := none
  nodeID := "node.example"
  category := "authentication"
  severity := "low"
  source := "shield"
  summary := "login failed"
  action := "logged"
  publicVisible := false
  userVisible := false
  nodeVisible := true
  createdAt := 63919886400 * second + after

def sequential (calls : List (String × Nat)) : List Event :=
  calls.flatMap fun (eventID, after) => [.read 0 (sampleEvent eventID after) (fun _ => 0) true, .save 0 true]

def sampleDigests : Digests := ⟨fun p => p.eventID, id⟩

/-- Two events a whole second apart. -/
theorem chain_linear_two :
    Linked (fun r : String × ChainRow => r.2.previousHash) (fun r => r.2.eventHash) genesisHash
        (exec (step sampleDigests) .init (sequential [("gs_evt_1", 0), ("gs_evt_2", second)])).chain.rows ∧
      ((exec (step sampleDigests) .init (sequential [("gs_evt_1", 0), ("gs_evt_2", second)])).chain.rows.map
        fun r => r.2.previousHash).Nodup :=
  chain_linear sampleDigests (sequential [("gs_evt_1", 0), ("gs_evt_2", second)]) (by decide +kernel)

/-- Three events in strictly increasing order, one call after the other: `12:00:00Z` is printed above
`12:00:00.5Z`, so the third names the first again and the chain forks. -/
theorem chain_forked :
    (exec (step sampleDigests) .init
      (sequential [("gs_evt_1", 0), ("gs_evt_2", second / 2), ("gs_evt_3", second)])).chain.rows.map
        (fun r => (r.1, r.2.previousHash)) =
      [("gs_evt_1", genesisHash), ("gs_evt_2", "gs_evt_1"), ("gs_evt_3", "gs_evt_1")] := by
  decide +kernel

end GaiaCom.Security.Audit
