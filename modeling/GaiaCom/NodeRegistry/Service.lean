/-
noderegistry/service.go: the registry of nodes, `HandlePing` of any node and `UpdateStatus` of the operator, beside the
federation servers that verify requests. A ping is one statement, as what it reads back is only returned. `UpdateStatus` is the
sequence of its statements, and requests, pings and other updates come in between. The times of an entry are left out, as
they are for federation servers.
-/
import GaiaCom.Federation.Peers
import GaiaCom.Lib.Utf8
import GaiaCom.Governance.Roles

namespace GaiaCom.NodeRegistry

open Lib GaiaCom.Federation

/-! ## Entries -/

inductive Status where
  | pending
  | accepted
  | blocked
  | quarantined
  deriving DecidableEq

def Status.text : Status → String
  | .pending => "pending"
  | .accepted => "accepted"
  | .blocked => "blocked"
  | .quarantined => "quarantined"

/-- A row of node_registry_entries under its domain. -/
structure NodeRegistryEntry where
  serverName : String
  publicKey : List UInt8
  coreHash : String
  nodeVersion : String
  operatorGaiaID : String
  status : Status
  lastError : String
  pingCount : Nat
  deriving DecidableEq

/-- `UpsertNodeRegistryEntry`: the status of an entry that is there stays. -/
def upsertNodeRegistryEntry (registry : Table String NodeRegistryEntry) (domain : String) (entry : NodeRegistryEntry) :
    Table String NodeRegistryEntry :=
  registry.upsert domain entry fun old new => { new with status := old.status, pingCount := old.pingCount + 1 }

def updateNodeRegistryStatus (registry : Table String NodeRegistryEntry) (domain : String) (status : Status)
    (lastError : String) : Table String NodeRegistryEntry :=
  registry.updateWhere (fun d _ => d = domain) fun entry => { entry with status := status, lastError := lastError }

/-! ## Checks -/

/-- What a node knows of itself: its name, the configured authority and the hash of its core. -/
structure Node where
  serverName : String
  authority : String
  localCoreHash : String

structure PingRequest where
  domain : String
  serverName : String
  publicKey : String
  coreHash : String
  nodeVersion : String
  operatorGaiaID : String
  deriving DecidableEq

inductive RegistryError where
  | domain | privateDomain | localDomain | publicKey | coreHash | status | database
  deriving DecidableEq

section Checks

variable (cm : CaseMap) (node : Node)

/-- `strings.ToLower(strings.TrimSpace(value))` -/
def normalized (value : String) : String := String.ofList (Governance.lowered cm value.toList)

def isRegistryAuthority : Bool :=
  let name := normalized cm node.serverName
  let authority := normalized cm node.authority
  name = (if authority = "" then "gaiacom.de" else authority) || name = "beta.gaiacom.de" ||
    ".gaiacom.de".toList.isSuffixOf name.toList

/-- `validatePublicDomain`; `isPrivate` is what the resolver says. -/
def validatePublicDomain (isPrivate : Bool) (domain : String) : Except RegistryError Unit :=
  if domain = "" || contains domain "://" || contains domain "/" then .error .domain
  else if isPrivate && !contains domain "localhost" then .error .privateDomain
  else if contains domain "localhost" || contains domain "127.0.0.1" || contains domain "192.168." then .error .localDomain
  else .ok ()

def isHexHash (value : String) : Bool :=
  len value = 64 && value.toList.all fun c => ('0' ≤ c && c ≤ '9') || ('a' ≤ c && c ≤ 'f')

/-- `safeShort`, as the text reads that is cut after some bytes. -/
def safeShort (value : String) (limit : Nat) : String :=
  let value := trimSpace value
  if len value ≤ limit then value else String.ofList (Utf8.text ((Utf8.encode value.toList).take limit))

def readPing (isPrivate : Bool) (input : PingRequest) : Except RegistryError (String × NodeRegistryEntry) :=
  let domain := normalized cm input.domain
  let domain := if domain = "" then normalized cm input.serverName else domain
  match validatePublicDomain isPrivate domain with
  | .error err => .error err
  | .ok () =>
    match base64Decode (trimSpace input.publicKey).toList with
    | none => .error .publicKey
    | some publicKey =>
      let coreHash := normalized cm input.coreHash
      if publicKey.length ≠ publicKeySize then .error .publicKey
      else if !isHexHash coreHash then .error .coreHash
      else
        let differs := isRegistryAuthority cm node && decide (coreHash ≠ node.localCoreHash)
        let serverName := trimSpace input.serverName
        let nodeVersion := safeShort input.nodeVersion 80
        .ok (domain,
          { serverName := if serverName = "" then domain else serverName
            publicKey := publicKey
            coreHash := coreHash
            nodeVersion := if nodeVersion = "" then "unknown" else nodeVersion
            operatorGaiaID := safeShort input.operatorGaiaID 160
            status := if differs then .quarantined else .pending
            lastError := if differs then "core hash differs from registry authority release hash" else ""
            pingCount := 1 })

def readStatus (status : String) : Option Status :=
  [Status.accepted, .blocked, .quarantined, .pending].find? fun s => s.text = status

end Checks

/-! ## Updates -/

/-- How far an update is. What the row showed of the key when its status was set is kept beside it. -/
inductive Stage where
  /-- The entry is to be read. -/
  | started
  /-- The status is to be set. -/
  | found (entry : NodeRegistryEntry)
  /-- The federation servers are next. -/
  | updated (entry : NodeRegistryEntry) (shown : Option (List UInt8))
  /-- The server could not be inserted, it is to be unblocked. -/
  | unblocking (entry : NodeRegistryEntry) (shown : Option (List UInt8))
  /-- It has returned nil. -/
  | returned (shown : Option (List UInt8))
  | failed (err : RegistryError)
  deriving DecidableEq

/-- A call of `UpdateStatus` that has passed its checks. -/
structure Update where
  domain : String
  status : Status
  lastError : String
  stage : Stage
  deriving DecidableEq

def Update.isAccepting (u : Update) (domain : String) : Bool :=
  u.domain = domain && u.status = .accepted &&
    match u.stage with
    | .started | .found _ | .updated .. | .unblocking .. => true
    | .returned _ | .failed _ => false

/-! ## The system -/

/-- The registry with the updates under way, and the federation servers with the verifications. `banned` are the domains that
an update has blocked or quarantined and that no later one began to accept. -/
structure State where
  registry : Table String NodeRegistryEntry
  updates : Table Nat Update
  peers : Peers.State
  banned : List String

def State.init : State := ⟨.empty, .empty, .init, []⟩

/-- What happens: a ping, an update that begins or goes on, or a step of a verification. The flags say what the resolver
finds and whether the database serves the statement. -/
inductive Event where
  | ping (input : PingRequest) (isPrivate ok : Bool)
  | start (n : Nat) (domain status lastError : String) (isPrivate : Bool)
  | advance (n : Nat) (ok : Bool)
  | verify (e : Peers.Event)

def isRequest : Peers.Event → Bool
  | .arrive .. | .lookup .. | .discover .. | .check .. => true
  | .setBlocked .. | .create .. => false

section Step

variable (cm : CaseMap) (node : Node) (crypto : Peers.Crypto) (s : State)

/-- `HandlePing`. -/
def handlePing (input : PingRequest) (isPrivate ok : Bool) : State :=
  match readPing cm node isPrivate input with
  | .error _ => s
  | .ok (domain, entry) => if ok then { s with registry := upsertNodeRegistryEntry s.registry domain entry } else s

/-- `UpdateStatus` up to its first statement. A number is given once. -/
def startUpdate (n : Nat) (domain status lastError : String) (isPrivate : Bool) : State :=
  let domain := normalized cm domain
  match validatePublicDomain isPrivate domain, readStatus status with
  | .ok (), some status =>
    if (s.updates.get? n).isSome then s
    else
      { s with
        updates := s.updates.insertOrIgnore n ⟨domain, status, lastError, .started⟩
        banned := if status = .accepted then s.banned.filter (· ≠ domain) else s.banned }
  | _, _ => s

def State.goOn (n : Nat) (u : Update) (stage : Stage) : State :=
  { s with updates := s.updates.put n { u with stage := stage } }

def State.act (e : Peers.Event) : State := { s with peers := Peers.step crypto s.peers e }

def State.ban (domain : String) : State := { s with banned := domain :: s.banned }

/-- One statement of `UpdateStatus`. -/
def advanceUpdate (n : Nat) (ok : Bool) (u : Update) : State :=
  match u.stage with
  | .started =>
    match if ok then s.registry.get? u.domain else none with
    | none => s.goOn n u (.failed .database)
    | some entry => s.goOn n u (.found entry)
  | .found entry =>
    if ok then
      let shown := (s.registry.get? u.domain).map fun e => e.publicKey
      let s' := { s with registry := updateNodeRegistryStatus s.registry u.domain u.status (safeShort u.lastError 500) }
      s'.goOn n u (if u.status = .pending then .returned shown else .updated entry shown)
    else s.goOn n u (.failed .database)
  | .updated entry shown =>
    match u.status with
    | .accepted =>
      let created := ok && (s.peers.servers.table.get? u.domain).isNone
      (s.act crypto (.create u.domain ⟨entry.publicKey, false⟩ ok)).goOn n u
        (if created then .returned shown else .unblocking entry shown)
    | .pending => s.goOn n u (.returned shown)
    | .blocked | .quarantined =>
      -- the error of the statement is ignored
      ((s.act crypto (.setBlocked u.domain true ok)).goOn n u (.returned shown)).ban u.domain
  | .unblocking _ shown => (s.act crypto (.setBlocked u.domain false ok)).goOn n u (.returned shown)
  | _ => s

def step (s : State) : Event → State
  | .ping input isPrivate ok => handlePing cm node s input isPrivate ok
  | .start n domain status lastError isPrivate => startUpdate cm s n domain status lastError isPrivate
  | .advance n ok =>
    match s.updates.get? n with
    | none => s
    | some u => advanceUpdate crypto s n ok u
  | .verify e => if isRequest e then s.act crypto e else s

/-- What `VerifyReceivedRequest` returns at an event. -/
def returned : Event → Option (Except Peers.VerifyError Peers.AuthenticatedPeer)
  | .verify e => if isRequest e then Peers.returned crypto s.peers e else none
  | _ => none

end Step

end GaiaCom.NodeRegistry
