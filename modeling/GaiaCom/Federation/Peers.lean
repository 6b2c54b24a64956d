/-
The known federation servers and the verification of requests, federation_service.go
(`VerifyReceivedRequest`, `getOrFetchPublicKey`) over the table federation_servers
(sql_store_federation.go). A verification takes four steps that others may come between: the
header, the lookup of the key, on a miss the discovery and the insertion of the key, and the check
of the signature.

A key is looked up under the text of the KeyId, but the authenticated peer is its lower-case form.
Blocking and pinning hold as long as no domain is stored in two spellings.
-/
import GaiaCom.Federation.Handshake
import GaiaCom.Lib.Run
import GaiaCom.Lib.Table

namespace GaiaCom.Federation.Peers

open Lib Core

/-! ## The table -/

/-- A row of federation_servers under its domain; the times of contact are left out. -/
structure Server where
  publicKey : List UInt8
  isBlocked : Bool
  deriving DecidableEq

/-- The table federation_servers, with every key ever stored in it, oldest first. -/
structure Servers where
  table : Table String Server
  stored : List (String × List UInt8)

/-- `FindFederationServer`. -/
def findFederationServer (s : Servers) (domain : String) : Option Server := s.table.get? domain

/-- `CreateFederationServer`; the flag is false if the domain is taken. -/
def createFederationServer (s : Servers) (domain : String) (server : Server) : Servers × Bool :=
  if (s.table.get? domain).isSome then (s, false)
  else (⟨s.table.insertOrIgnore domain server, s.stored ++ [(domain, server.publicKey)]⟩, true)

/-- `SetFederationServerBlocked`. -/
def setFederationServerBlocked (s : Servers) (domain : String) (blocked : Bool) : Servers :=
  { s with table := s.table.updateWhere (fun d _ => d = domain) fun r => { r with isBlocked := blocked } }

/-- The first key stored for a domain that equals `domain` up to case. -/
def Servers.firstKey (s : Servers) (domain : String) : Option (List UInt8) :=
  (s.stored.find? fun e => toLower e.1 = toLower domain).map Prod.snd

/-! ## Verification -/

/-- Hashing and signature checking. -/
structure Crypto where
  sha256 : List UInt8 → List UInt8
  verify : (publicKey : List UInt8) → (message : String) → (signature : List UInt8) → Bool

/-- What is read of an HTTP request. -/
structure Request where
  authorization : String
  method : String
  path : String
  body : List UInt8

/-- Why a request is refused. -/
inductive VerifyError where
  | missingHeader
  | malformedHeader (cause : HeaderError)
  | skew
  | blocked (keyID : String)
  | discovery (keyID : String) (cause : DiscoveryError)
  | insert (keyID : String)
  /-- `ed25519.Verify` panics on a key of another size. -/
  | keySize
  | signature
  deriving DecidableEq

/-- `AuthenticatedPeer`. -/
structure AuthenticatedPeer where
  domain : String
  publicKey : List UInt8
  deriving DecidableEq

/-- Where a verification stands. -/
inductive Phase where
  | lookup
  | discover
  | check (publicKey : List UInt8)
  deriving DecidableEq

/-- A verification under way. -/
structure Verification where
  header : S2SHeader
  request : Request
  phase : Phase

/-- The part of `VerifyReceivedRequest` before the lookup, at Unix time `now`. -/
def readHeader (now : Int) (request : Request) : Except VerifyError S2SHeader :=
  if request.authorization = "" then .error .missingHeader
  else
    match parseS2SHeader request.authorization with
    | .error err => .error (.malformedHeader err)
    | .ok header => if isTimestampValid now header.timestamp then .ok header else .error .skew

/-- `getOrFetchPublicKey` up to the discovery: the key of the row if one is found, `none` if not or
if the query fails. -/
def lookupKey (s : Servers) (keyID : String) (ok : Bool) : Except VerifyError (Option (List UInt8)) :=
  match if ok then findFederationServer s keyID else none with
  | some server => if server.isBlocked then .error (.blocked keyID) else .ok (some server.publicKey)
  | none => .ok none

/-- `getOrFetchPublicKey` from the discovery on; the insertion fails if the domain is taken or the
database fails. -/
def discoverKey (s : Servers) (keyID : String) (answer : Answer) (ok : Bool) :
    Servers × Except VerifyError (List UInt8) :=
  match fetchRemoteServerKey keyID answer with
  | .error err => (s, .error (.discovery keyID err))
  | .ok publicKey =>
    let (s', inserted) := if ok then createFederationServer s keyID ⟨publicKey, false⟩ else (s, false)
    if inserted then (s', .ok publicKey) else (s, .error (.insert keyID))

/-- The part of `VerifyReceivedRequest` after the lookup. -/
def checkSignature (crypto : Crypto) (header : S2SHeader) (request : Request) (publicKey : List UInt8) :
    Except VerifyError AuthenticatedPeer :=
  let message := canonicalRequestSigningText request.method request.path header.keyID header.timestamp
    (crypto.sha256 request.body)
  if publicKey.length ≠ publicKeySize then .error .keySize
  else if crypto.verify publicKey message header.signature then .ok ⟨toLower header.keyID, publicKey⟩
  else .error .signature

/-! ## Runs -/

/-- The servers and the verifications under way. -/
structure State where
  servers : Servers
  requests : Table Nat Verification

def State.init : State := ⟨⟨Table.empty, []⟩, Table.empty⟩

/-- One step: of the verification with a number, or a call of another part of the node. The flags
say whether the database serves the statement. -/
inductive Event where
  | arrive (i : Nat) (request : Request) (now : Int)
  | lookup (i : Nat) (ok : Bool)
  | discover (i : Nat) (answer : Answer) (ok : Bool)
  | check (i : Nat)
  | setBlocked (domain : String) (blocked : Bool) (ok : Bool)
  | create (domain : String) (server : Server) (ok : Bool)

/-- The verification `i` goes on in a phase. -/
def State.goOn (s : State) (i : Nat) (v : Verification) (phase : Phase) : State :=
  { s with requests := s.requests.put i { v with phase := phase } }

/-- The verification `i` is over. -/
def State.finish (s : State) (i : Nat) : State := { s with requests := s.requests.deleteWhere fun j _ => j = i }

/-- The state after an event, and what `VerifyReceivedRequest` returns if it returns. -/
def act (crypto : Crypto) (s : State) : Event → State × Option (Except VerifyError AuthenticatedPeer)
  | .arrive i request now =>
    match readHeader now request with
    | .error err => (s, some (.error err))
    | .ok header => (s.goOn i ⟨header, request, .lookup⟩ .lookup, none)
  | .lookup i ok =>
    match s.requests.get? i with
    | some ⟨header, request, .lookup⟩ =>
      match lookupKey s.servers header.keyID ok with
      | .error err => (s.finish i, some (.error err))
      | .ok (some publicKey) => (s.goOn i ⟨header, request, .lookup⟩ (.check publicKey), none)
      | .ok none => (s.goOn i ⟨header, request, .lookup⟩ .discover, none)
    | _ => (s, none)
  | .discover i answer ok =>
    match s.requests.get? i with
    | some ⟨header, request, .discover⟩ =>
      match discoverKey s.servers header.keyID answer ok with
      | (_, .error err) => (s.finish i, some (.error err))
      | (servers, .ok publicKey) =>
        ({ s with servers := servers }.goOn i ⟨header, request, .discover⟩ (.check publicKey), none)
    | _ => (s, none)
  | .check i =>
    match s.requests.get? i with
    | some ⟨header, request, .check publicKey⟩ => (s.finish i, some (checkSignature crypto header request publicKey))
    | _ => (s, none)
  | .setBlocked domain blocked ok =>
    (if ok then { s with servers := setFederationServerBlocked s.servers domain blocked } else s, none)
  | .create domain server ok =>
    (if ok then { s with servers := (createFederationServer s.servers domain server).1 } else s, none)

def step (crypto : Crypto) (s : State) (e : Event) : State := (act crypto s e).1

/-- What `VerifyReceivedRequest` returns at an event. -/
def returned (crypto : Crypto) (s : State) (e : Event) : Option (Except VerifyError AuthenticatedPeer) :=
  (act crypto s e).2

/-! ## One spelling of each domain -/

/-- The domain is spelled as in every row that equals it up to case. -/
def Spelled (s : Servers) (domain : String) : Prop := ∀ r ∈ s.table.rows, toLower r.1 = toLower domain → r.1 = domain

instance (s : Servers) (domain : String) : Decidable (Spelled s domain) := inferInstanceAs (Decidable (∀ _ ∈ _, _))

def Verification.usesKeyOf (v : Verification) (domain : String) : Bool :=
  match v.phase with
  | .check _ => v.header.keyID = domain
  | _ => false

/-- No event stores a domain in a second spelling, and no domain is blocked between the lookup of its
key and the return of the verification. -/
def Orderly (s : State) : Event → Prop
  | .discover i _ _ => ∀ v ∈ s.requests.get? i, Spelled s.servers v.header.keyID
  | .create domain _ _ => Spelled s.servers domain
  | .setBlocked domain blocked _ => blocked = true → ∀ r ∈ s.requests.rows, r.2.usesKeyOf domain = false
  | _ => True

instance (s : State) : (e : Event) → Decidable (Orderly s e)
  | .discover i _ _ => inferInstanceAs (Decidable (∀ v ∈ s.requests.get? i, Spelled s.servers v.header.keyID))
  | .create domain _ _ => inferInstanceAs (Decidable (Spelled s.servers domain))
  | .setBlocked domain blocked _ =>
    inferInstanceAs (Decidable (blocked = true → ∀ r ∈ s.requests.rows, r.2.usesKeyOf domain = false))
  | .arrive _ _ _ | .lookup _ _ | .check _ => .isTrue trivial

/-! ## The invariant -/

/-- No two rows equal each other up to case, every row has the first key of its domain, every key
stored is that of a row. -/
structure Pinned (s : Servers) : Prop where
  spelling : ∀ d r d' r', s.table.get? d = some r → s.table.get? d' = some r' → toLower d = toLower d' → d = d'
  first : ∀ d r, s.table.get? d = some r → s.firstKey d = some r.publicKey
  known : ∀ e ∈ s.stored, (s.table.get? e.1).isSome

/-- A verification that has a key has it from a row that is not blocked. -/
structure Inv (s : State) : Prop where
  pinned : Pinned s.servers
  checked : ∀ i v publicKey, s.requests.get? i = some v → v.phase = .check publicKey →
    ∃ r, s.servers.table.get? v.header.keyID = some r ∧ r.publicKey = publicKey ∧ r.isBlocked = false

theorem inv_init : Inv .init :=
  ⟨⟨fun _ _ _ _ h => (by cases h), fun _ _ h => (by cases h), fun _ h => (by cases h)⟩, fun _ _ _ h => (by cases h)⟩

variable {d : String}

theorem firstKey_eq {s : Servers} {d' : String} (h : toLower d = toLower d') : s.firstKey d = s.firstKey d' := by
  simp only [Servers.firstKey, h]

variable {domain : String}

theorem spelled_iff {s : Servers} :
    Spelled s domain ↔ ∀ d r, s.table.get? d = some r → toLower d = toLower domain → d = domain := by
  simp only [Spelled, Prod.forall, Table.get?_eq_some]

theorem create_cases (s : Servers) (domain : String) (server : Server) :
    (createFederationServer s domain server = (s, false) ∧ (s.table.get? domain).isSome) ∨
      (createFederationServer s domain server =
        (⟨s.table.insertOrIgnore domain server, s.stored ++ [(domain, server.publicKey)]⟩, true) ∧
        s.table.get? domain = none) := by
  unfold createFederationServer
  cases s.table.get? domain with
  | none => exact .inr ⟨rfl, rfl⟩
  | some r => exact .inl ⟨rfl, rfl⟩

theorem get?_create {s : Servers} (domain : String) (server : Server) {r : Server} (h : s.table.get? d = some r) :
    (createFederationServer s domain server).1.table.get? d = some r := by
  grind [Table.get?_insertOrIgnore, createFederationServer]

theorem firstKey_append {s : Servers} {key : List UInt8} (h : s.firstKey d = some key)
    (t : Table String Server) (e : String × List UInt8) : Servers.firstKey ⟨t, s.stored ++ [e]⟩ d = some key := by
  grind [Servers.firstKey]

theorem pinned_create {s : Servers} (hs : Pinned s) (server : Server) (hd : Spelled s domain) :
    Pinned (createFederationServer s domain server).1 := by
  rcases create_cases s domain server with ⟨heq, -⟩ | ⟨heq, hn⟩
  · rw [heq]; exact hs
  rw [heq]
  -- a row of the new table is an old one, under another domain even up to case, or the new one
  have hrow : ∀ d r, (s.table.insertOrIgnore domain server).get? d = some r →
      (d = domain ∧ r = server) ∨ (s.table.get? d = some r ∧ toLower d ≠ toLower domain) := by
    grind [Table.get?_insertOrIgnore, spelled_iff]
  refine ⟨fun d r d' r' hr hr' hl => ?_, fun d r hr => ?_, fun e he => ?_⟩
  · grind [hs.spelling]
  · rcases hrow d r hr with ⟨rfl, rfl⟩ | ⟨hr, -⟩
    · -- nothing was stored for the domain in any spelling
      have hnone : (s.stored.find? fun e => toLower e.1 = toLower d) = none := by
        rw [List.find?_eq_none]
        intro e he hl
        obtain ⟨r', hr'⟩ := Option.isSome_iff_exists.1 (hs.known e he)
        grind [spelled_iff]
      simp [Servers.firstKey, hnone]
    · exact firstKey_append (hs.first d r hr) _ _
  · rcases List.mem_append.1 he with he | he
    · obtain ⟨r, hr⟩ := Option.isSome_iff_exists.1 (hs.known e he)
      have := get?_create domain server hr
      grind
    · rw [List.mem_singleton.1 he]
      simp

theorem pinned_setBlocked {s : Servers} (hs : Pinned s) (domain : String) (blocked : Bool) :
    Pinned (setFederationServerBlocked s domain blocked) := by
  have hrow : ∀ d r, (setFederationServerBlocked s domain blocked).table.get? d = some r →
      ∃ r', s.table.get? d = some r' ∧ r'.publicKey = r.publicKey := by
    grind [setFederationServerBlocked, Table.get?_updateWhere, Option.map_eq_some_iff]
  refine ⟨fun d r d' r' hr hr' hl => ?_, fun d r hr => ?_, fun e he => ?_⟩
  · grind [hs.spelling]
  · obtain ⟨r', hr', hk⟩ := hrow d r hr
    exact (hs.first d r' hr').trans (congrArg some hk)
  · simpa [setFederationServerBlocked] using hs.known e he

/-! ## Steps -/

@[grind →]
theorem lookupKey_some {s : Servers} {keyID : String} {ok : Bool} {publicKey : List UInt8}
    (h : lookupKey s keyID ok = .ok (some publicKey)) :
    ∃ r, s.table.get? keyID = some r ∧ r.publicKey = publicKey ∧ r.isBlocked = false := by
  unfold lookupKey at h
  split at h
  · rename_i server hserver
    split at h
    · cases h
    rename_i hb
    cases h
    cases ok with
    | false => cases hserver
    | true => exact ⟨server, hserver, rfl, by simpa using hb⟩
  · cases h

@[grind →]
theorem discoverKey_ok {s s' : Servers} {keyID : String} {answer : Answer} {ok : Bool} {publicKey : List UInt8}
    (h : discoverKey s keyID answer ok = (s', .ok publicKey)) :
    s' = (createFederationServer s keyID ⟨publicKey, false⟩).1 ∧
      s'.table.get? keyID = some ⟨publicKey, false⟩ := by
  unfold discoverKey at h
  split at h
  · cases h
  cases ok with
  | false => cases h
  | true =>
    rename_i key hkey
    rcases create_cases s keyID ⟨key, false⟩ with ⟨heq, -⟩ | ⟨heq, hn⟩
    · simp only [if_true, heq] at h; cases h
    · simp only [if_true, heq] at h
      cases h
      exact ⟨by rw [heq], by simp [hn]⟩

variable {s : State}

theorem inv_goOn (hs : Inv s) (i : Nat) (v : Verification) {phase : Phase} (h : ∀ publicKey, phase = .check publicKey →
      ∃ r, s.servers.table.get? v.header.keyID = some r ∧ r.publicKey = publicKey ∧ r.isBlocked = false) :
    Inv (s.goOn i v phase) := by
  grind [State.goOn, Inv]

theorem inv_finish (hs : Inv s) (i : Nat) : Inv (s.finish i) := by
  grind [State.finish, Table.get?_deleteWhere, Option.filter_eq_some_iff, Inv]

theorem inv_create (hs : Inv s) (server : Server) (hd : Spelled s.servers domain) :
    Inv { s with servers := (createFederationServer s.servers domain server).1 } := by
  grind [pinned_create, get?_create, Inv]

theorem inv_setBlocked (hs : Inv s) {blocked : Bool}
    (h : blocked = true → ∀ r ∈ s.requests.rows, r.2.usesKeyOf domain = false) :
    Inv { s with servers := setFederationServerBlocked s.servers domain blocked } := by
  refine ⟨pinned_setBlocked hs.pinned domain blocked, fun j w publicKey hw hphase => ?_⟩
  obtain ⟨r, hr, hk, hb⟩ := hs.checked j w publicKey hw hphase
  simp only [setFederationServerBlocked, Table.get?_updateWhere, hr, Option.map_some, Option.some.injEq,
    exists_eq_left']
  cases blocked with
  | false => split <;> exact ⟨hk, by simp [hb]⟩
  | true =>
    have hne : w.header.keyID ≠ domain := by
      grind [Verification.usesKeyOf]
    simp [hne, hk, hb]

variable {e : Event}

theorem inv_step (crypto : Crypto) (hs : Inv s) (he : Orderly s e) : Inv (step crypto s e) := by
  cases e with
  | arrive i request now =>
    grind [step, act, inv_goOn]
  | lookup i ok =>
    grind [step, act, inv_finish, inv_goOn]
  | discover i answer ok =>
    simp only [step, act]
    split
    · rename_i header request hv
      split
      · exact inv_finish hs i
      rename_i hkey
      obtain ⟨rfl, hrow⟩ := discoverKey_ok hkey
      exact inv_goOn (inv_create hs _ (he _ hv)) i _ fun _ h => (by cases h; exact ⟨_, hrow, rfl, rfl⟩)
    · exact hs
  | check i =>
    grind [step, act, inv_finish]
  | setBlocked domain blocked ok =>
    simp only [step, act]
    split
    · exact inv_setBlocked hs he
    exact hs
  | create domain server ok =>
    simp only [step, act]
    split
    · exact inv_create hs server he
    exact hs

variable {crypto : Crypto} {peer : AuthenticatedPeer}

@[grind →]
theorem returned_ok (h : returned crypto s e = some (.ok peer)) :
    ∃ i v, s.requests.get? i = some v ∧ v.phase = .check peer.publicKey ∧ peer.domain = toLower v.header.keyID := by
  cases e with
  | check i =>
    simp only [returned, act] at h
    split at h
    · rename_i header request publicKey hv
      simp only [checkSignature, Option.some.injEq] at h
      split at h
      · cases h
      split at h <;> cases h
      exact ⟨i, _, hv, rfl, rfl⟩
    · cases h
  | arrive i request now => simp only [returned, act] at h; split at h <;> cases h
  | lookup i ok | discover i answer ok =>
    simp only [returned, act] at h
    split at h
    · split at h <;> cases h
    cases h
  | setBlocked domain blocked ok | create domain server ok => cases h

theorem Inv.not_blocked (hs : Inv s)
    (h : returned crypto s e = some (.ok peer)) {r : Server} (hr : s.servers.table.get? d = some r)
    (hd : toLower d = peer.domain) : r.isBlocked = false := by
  obtain ⟨i, v, hv, hphase, hdomain⟩ := returned_ok h
  obtain ⟨r', hr', -, hb⟩ := hs.checked i v _ hv hphase
  obtain rfl : d = v.header.keyID := hs.pinned.spelling d r _ r' hr hr' (hd.trans hdomain)
  rw [hr'] at hr
  cases hr
  exact hb

theorem Inv.first_key (hs : Inv s)
    (h : returned crypto s e = some (.ok peer)) : s.servers.firstKey peer.domain = some peer.publicKey := by
  obtain ⟨i, v, hv, hphase, hdomain⟩ := returned_ok h
  obtain ⟨r, hr, hkey, -⟩ := hs.checked i v _ hv hphase
  have hclass : toLower peer.domain = toLower v.header.keyID := by rw [hdomain, toLower_toLower]
  rw [firstKey_eq hclass, hs.pinned.first _ _ hr, hkey]

/-- Blocking and pinning: in every run that stores no domain in a second spelling and blocks no
domain under a verification that already has its key, whenever a verification succeeds, no row
that equals the peer's domain up to case is blocked, and the key used is the first one ever
stored for the domain. -/
theorem peers_pinned (crypto : Crypto) (es : List Event) (e : Event) (peer : AuthenticatedPeer)
    (horderly : Along (step crypto) Orderly .init es)
    (hok : returned crypto (exec (step crypto) .init es) e = some (.ok peer)) :
    (∀ d r, (exec (step crypto) .init es).servers.table.get? d = some r → toLower d = peer.domain →
      r.isBlocked = false) ∧
    (exec (step crypto) .init es).servers.firstKey peer.domain = some peer.publicKey := by
  have hinv : Inv (exec (step crypto) .init es) :=
    horderly.invariant (P := Inv) (fun s e hs he => inv_step crypto hs he) inv_init
  grind [hinv.not_blocked, hinv.first_key]

/-! ## A contact -/

def accepting : Crypto := ⟨fun _ => [], fun _ _ _ => true⟩

def sampleRequest (keyID : String) : Request where
  authorization := "X-Gaia-S2S-V1 KeyId=\"" ++ keyID ++ "\",Signature=\"" ++
    "AAAAAAAAAAAAAAAAAAAAAAAAAAAAAAAAAAAAAAAAAAAAAAAAAAAAAAAAAAAAAAAAAAAAAAAAAAAAAAAAAAAAAA==\",Timestamp=\"1000\""
  method := "POST"
  path := "/_gaiacom/s2s/v1/forward"
  body := []

def sampleAnswer (serverName : String) : Answer where
  isPrivate := false
  response := some (200, "\x7b\"server_name\":\"" ++ serverName ++ "\",\"ed25519_public_key\":" ++
    "\"AAAAAAAAAAAAAAAAAAAAAAAAAAAAAAAAAAAAAAAAAAA=\"\x7d")

def contact (keyID : String) : List Event :=
  [.arrive 0 (sampleRequest keyID) 1000, .lookup 0 true, .discover 0 (sampleAnswer keyID) true]

/-- A first contact succeeds with the key it stored. -/
theorem pinned_on_first_contact :
    returned accepting (exec (step accepting) .init (contact "peer.example")) (.check 0) =
        some (.ok ⟨"peer.example", List.replicate 32 0⟩) ∧
      (exec (step accepting) .init (contact "peer.example")).servers.firstKey "peer.example" =
        some (List.replicate 32 0) := by
  have h : Along (step accepting) Orderly .init (contact "peer.example") ∧
      returned accepting (exec (step accepting) .init (contact "peer.example")) (.check 0) =
        some (.ok ⟨"peer.example", List.replicate 32 0⟩) := by decide +kernel
  exact ⟨h.2, (peers_pinned accepting (contact "peer.example") (.check 0) _ h.1 h.2).2⟩

/-- A server is known with another key and blocked; a request comes under its name with a capital
letter. -/
def respelled : List Event :=
  [.create "peer.example" ⟨List.replicate 32 7, false⟩ true, .setBlocked "peer.example" true true] ++
    contact "Peer.example"

/-- The request misses the row, is discovered anew and succeeds as the blocked domain with the new
key. -/
theorem blocked_peer_respelled :
    returned accepting (exec (step accepting) .init respelled) (.check 0) =
        some (.ok ⟨"peer.example", List.replicate 32 0⟩) ∧
      (exec (step accepting) .init respelled).servers.table.get? "peer.example" = some ⟨List.replicate 32 7, true⟩ ∧
      (exec (step accepting) .init respelled).servers.firstKey "peer.example" = some (List.replicate 32 7) := by
  decide +kernel

end GaiaCom.Federation.Peers
