/-
Pairing devices: `Start`, `Approve`, `Consume` and `RevokeKey` of device_pairing_service.go over the statements of
sql_store_auth.go. Each call is the sequence of its statements and calls run side by side.

A pairing goes from pending to approved to consumed, and a key is active only if a pairing for it was approved under
a valid signature of the identity. The expiry is compared as a text, so an approval or a consumption may come less
than a second late; and a pairing that is already approved when its key is revoked makes the key active again
(`pairings_and_keys`).
-/
import GaiaCom.Auth.Store
import GaiaCom.Federation.Wire
import GaiaCom.Lib.Pool

namespace GaiaCom.Devices

open Lib Core GaiaCom.Store
open Auth (Database DeviceKey KeyStatus Material revokeDeviceKey activeKey)
open Federation.Wire (Bytes bytes Primitives)

/-! ## The store -/

/-- A row of identities. -/
structure Identity where
  userID : UUID
  isActive : Bool
  publicRecord : Bytes
  deriving DecidableEq

inductive Status where
  | pending
  | approved
  | consumed
  deriving DecidableEq

/-- The columns of device_pairings that are never changed. -/
structure Terms where
  userID : UUID
  identityID : UUID
  secretHash : String
  deviceLabel : String
  boxPublic : String
  kemPublic : String
  signPublic : String
  expiresAt : String
  deriving DecidableEq

/-- A row of device_pairings. -/
structure Pairing where
  terms : Terms
  status : Status
  encryptedPayload : String
  approvalSignature : String
  approvedAt : String
  consumedAt : String
  deriving DecidableEq

def Terms.material (t : Terms) : Material := (t.identityID, t.boxPublic, t.kemPublic)

structure Registry where
  db : Database
  pairings : Table UUID Pairing

/-! ## Calls -/

/-- Hashing and signatures, and the identities, which no call changes. -/
structure World where
  crypto : Primitives
  identities : Table UUID Identity

/-- What the world provides for one step. -/
structure Tick where
  now : Nat
  id : UUID
  secret : Bytes
  fails : Bool
  drawFails : Bool

inductive Request where
  | start (userID identityID : UUID) (label boxPublic kemPublic signPublic : String)
  | approve (userID pairingID : UUID) (secret encryptedPayload signature approverDeviceKeyID deviceSignature : String)
  | consume (userID pairingID sessionID : UUID) (secret : String)
  | revokeKey (userID keyID : UUID)
  deriving DecidableEq

inductive PairingError where
  | request | ownership | label | entropy | approvalRejected | approval | identityKey | signature
  | attestation | approvalRequired | approver | deviceApproval | consumeRejected | revocation | noRows | database
  deriving DecidableEq

/-- How far a call is; an approval keeps the pairing that it read. -/
inductive Stage where
  | started
  | owned
  | found (terms : Terms)
  | signed (terms : Terms)
  | attesting (terms : Terms) (approverID : UUID)
  | attested (terms : Terms)
  | failed (err : PairingError)
  | succeeded
  deriving DecidableEq

structure Call where
  request : Request
  stage : Stage
  deriving DecidableEq

def Call.begin (request : Request) : Call := ⟨request, .started⟩

/-! ## Checks -/

def pairingTTL : Nat := 10 * minute

/-- `validHex`. -/
def validHex (value : String) (length : Nat) : Bool := len value = length && (hexDecode value.toList).isSome

/-- `pairingSecretMatches`. -/
def pairingSecretMatches (c : Primitives) (secretHash secret : String) : Bool :=
  ((hexDecode (trim secret.toList)).filter fun raw => raw.length = 32).any fun raw =>
    hexDecode secretHash.toList = some (c.sha256 raw)

/-- `pairingApprovalPayload`. -/
def pairingApprovalPayload (c : Primitives) (id : UUID) (t : Terms) (encryptedPayload : String) : String :=
  "\n".intercalate ["gaiacom-device-pairing-v1", id.text, t.secretHash, hexEncode (c.sha256 (bytes t.boxPublic)),
    hexEncode (c.sha256 (bytes t.kemPublic)), hexEncode (c.sha256 (bytes t.signPublic)),
    hexEncode (c.sha256 (bytes encryptedPayload)), String.ofList (rfc3339Nano (parseTime t.expiresAt))]

def identityKey (publicRecord : Bytes) : Option Bytes := do
  let ms ← (← Json.parseChars (Utf8.text publicRecord)).members
  let key ← Json.mapValue "public_keys" "identity" ms
  if validHex key 64 then hexDecode key.toList else none

def verifies (c : Primitives) (publicKey : Bytes) (message signature : String) : Bool :=
  (hexDecode signature.toList).any fun sig => c.verify publicKey (bytes message) sig

/-- `FindActiveDeviceKeysForIdentity` and `FindActiveDeviceKey`. -/
def isActiveFor (identityID : UUID) (material : Material) (key : DeviceKey) : Bool :=
  material.1 = identityID && key.status = .active && key.revokedAt = ""

/-! ## Statements -/

/-- `ApproveDevicePairing`: the expiry is compared as a text. -/
def approvable (now : Nat) (pairing : Pairing) : Bool :=
  pairing.status = .pending && formatTime now < pairing.terms.expiresAt

def approveDevicePairing (r : Registry) (now : Nat) (pairingID : UUID) (encryptedPayload signature : String) :
    Option Registry :=
  if (r.pairings.get? pairingID).any (approvable now) then
    some { r with
      pairings := r.pairings.updateWhere (fun id pairing => id = pairingID && approvable now pairing) fun pairing =>
        { pairing with
          status := .approved
          encryptedPayload := encryptedPayload
          approvalSignature := signature
          approvedAt := formatTime now } }
  else none

def consumable (now : Nat) (pairing : Pairing) : Bool :=
  pairing.status = .approved && formatTime now < pairing.terms.expiresAt

/-- The upsert of `ConsumeDevicePairing` into device_keys; it fails if the id of a new row is taken. -/
def activateKey (db : Database) (now : Nat) (keyID : UUID) (t : Terms) : Option Database :=
  if (db.deviceKeys.get? t.material).isNone && 0 < db.deviceKeys.countWhere (fun _ key => key.id = keyID) then none
  else some { db with
    deviceKeys := db.deviceKeys.upsert t.material
      ⟨keyID, t.userID, t.deviceLabel, t.signPublic, .active, formatTime now, ""⟩
      fun old new => { old with signPublic := new.signPublic, status := .active, revokedAt := "" } }

/-- The last statement of `ConsumeDevicePairing`, if the caller has a session; the session must be there. -/
def bindSession (db : Database) (userID sessionID : UUID) (material : Material) : Option Database :=
  if sessionID = .nil then some db
  else if (db.sessions.get? sessionID).any fun session => session.userID = userID && session.revokedAt = "" then
    some { db with
      sessions := db.sessions.updateWhere
        (fun id session => id = sessionID && session.userID = userID && session.revokedAt = "")
        fun session => { session with deviceKeyID := (db.deviceKeys.get? material).map DeviceKey.id } }
  else none

/-- `ConsumeDevicePairing`, one transaction. -/
def consumeDevicePairing (r : Registry) (now : Nat) (keyID pairingID sessionID : UUID) : Option Registry := do
  let pairing ← (r.pairings.get? pairingID).filter (consumable now)
  let db ← activateKey r.db now keyID pairing.terms
  let db ← bindSession db pairing.terms.userID sessionID pairing.terms.material
  return {
    db := db
    pairings := r.pairings.updateWhere (fun id p => id = pairingID && p.status = .approved) fun p =>
      { p with status := .consumed, consumedAt := formatTime now } }

/-! ## Steps -/

section Steps

variable (w : World) (tick : Tick) (r : Registry)

def nextStart (userID identityID : UUID) (label boxPublic kemPublic signPublic : String) : Stage → Registry × Stage
  | .started =>
    if userID = .nil ∨ identityID = .nil ∨ !validHex boxPublic 64 ∨ !validHex kemPublic 3136 ∨ !validHex signPublic 64 then
      (r, .failed .request)
    else if tick.fails ∨ !(w.identities.get? identityID).any fun i => i.userID = userID && i.isActive then
      (r, .failed .ownership)
    else (r, .owned)
  | .owned =>
    if trimSpace label = "" ∨ 80 < (trimSpace label).toList.length then (r, .failed .label)
    else if tick.drawFails then (r, .failed .entropy)
    else if tick.id = .nil then (r, .failed .noRows)
    else if tick.fails ∨ (r.pairings.get? tick.id).isSome then (r, .failed .database)
    else
      let terms : Terms := {
        userID := userID
        identityID := identityID
        secretHash := hexEncode (w.crypto.sha256 tick.secret)
        deviceLabel := trimSpace label
        boxPublic := toLower boxPublic
        kemPublic := toLower kemPublic
        signPublic := toLower signPublic
        expiresAt := formatTime (tick.now + pairingTTL) }
      ({ r with pairings := r.pairings.insertOrIgnore tick.id ⟨terms, .pending, "", "", "", ""⟩ }, .succeeded)
  | stage => (r, stage)

/-- `Get`. -/
def get (userID pairingID : UUID) (secret : String) : Option Pairing :=
  if tick.fails then none
  else (r.pairings.get? pairingID).filter fun pairing =>
    pairing.terms.userID = userID && pairingSecretMatches w.crypto pairing.terms.secretHash secret &&
      !(parseTime pairing.terms.expiresAt < tick.now) && pairing.status ≠ .consumed

/-- `Approve`; each step is a statement and the checks of what it read. -/
def nextApprove (userID pairingID : UUID) (secret encryptedPayload signature approverDeviceKeyID deviceSignature : String) :
    Stage → Registry × Stage
  | .started =>
    match (get w tick r userID pairingID secret).filter fun pairing => pairing.status = .pending with
    | none => (r, .failed .approvalRejected)
    | some pairing => (r, .found pairing.terms)
  | .found terms =>
    if len encryptedPayload < 32 ∨ 65536 < len encryptedPayload ∨ !validHex signature 128 then (r, .failed .approval)
    else
      match (if tick.fails then none else w.identities.get? terms.identityID).filter fun i => i.userID = userID with
      | none => (r, .failed .ownership)
      | some identity =>
        match identityKey identity.publicRecord with
        | none => (r, .failed .identityKey)
        | some publicKey =>
          if verifies w.crypto publicKey (pairingApprovalPayload w.crypto pairingID terms encryptedPayload) signature then
            (r, .signed terms)
          else (r, .failed .signature)
  | .signed terms =>
    if tick.fails then (r, .failed .attestation)
    else if r.db.deviceKeys.countWhere (isActiveFor terms.identityID) = 0 then (r, .attested terms)
    else
      match (parse approverDeviceKeyID).filter fun id => id ≠ .nil && validHex deviceSignature 128 with
      | none => (r, .failed .approvalRequired)
      | some approverID => (r, .attesting terms approverID)
  | .attesting terms approverID =>
    match if tick.fails then none else (r.db.deviceKeys.rows.find? fun row =>
        row.2.id = approverID && isActiveFor terms.identityID row.1 row.2).map Prod.snd with
    | none => (r, .failed .approver)
    | some approver =>
      if !validHex approver.signPublic 64 then (r, .failed .approver)
      else if (hexDecode approver.signPublic.toList).any fun publicKey => verifies w.crypto publicKey
          ("gaiacom-device-pairing-approval-v1\n" ++ pairingApprovalPayload w.crypto pairingID terms encryptedPayload)
          deviceSignature then (r, .attested terms)
      else (r, .failed .deviceApproval)
  | .attested _ =>
    match if tick.fails then none
      else approveDevicePairing r tick.now pairingID encryptedPayload (toLower signature) with
    | none => (r, .failed (if tick.fails then .database else .noRows))
    | some r => (r, .succeeded)
  | stage => (r, stage)

/-- `Consume`. -/
def nextConsume (userID pairingID sessionID : UUID) (secret : String) : Stage → Registry × Stage
  | .started =>
    match (get w tick r userID pairingID secret).filter fun pairing => pairing.status = .approved with
    | none => (r, .failed .consumeRejected)
    | some pairing => (r, .found pairing.terms)
  | .found _ =>
    match if tick.fails then none else consumeDevicePairing r tick.now tick.id pairingID sessionID with
    | none => (r, .failed (if tick.fails then .database else .noRows))
    | some r => (r, .succeeded)
  | stage => (r, stage)

/-- `RevokeKey`. -/
def nextRevokeKey (userID keyID : UUID) : Stage → Registry × Stage
  | .started =>
    if userID = .nil ∨ keyID = .nil then (r, .failed .revocation)
    else
      match if tick.fails then none else revokeDeviceKey r.db tick.now userID keyID with
      | none => (r, .failed (if tick.fails then .database else .noRows))
      | some db => ({ r with db := db }, .succeeded)
  | stage => (r, stage)

def nextStage : Request → Stage → Registry × Stage
  | .start userID identityID label boxPublic kemPublic signPublic =>
    nextStart w tick r userID identityID label boxPublic kemPublic signPublic
  | .approve userID pairingID secret encryptedPayload signature approverDeviceKeyID deviceSignature =>
    nextApprove w tick r userID pairingID secret encryptedPayload signature approverDeviceKeyID deviceSignature
  | .consume userID pairingID sessionID secret => nextConsume w tick r userID pairingID sessionID secret
  | .revokeKey userID keyID => nextRevokeKey tick r userID keyID

def next (call : Call) : Registry × Call :=
  ((nextStage w tick r call.request call.stage).1, ⟨call.request, (nextStage w tick r call.request call.stage).2⟩)

end Steps

abbrev System := Pool Registry Call

abbrev Event := Pool.Event Request Tick

def step (w : World) : System → Event → System := Pool.step Call.begin (next w)

def fresh (db : Database) : System := ⟨⟨{ db with deviceKeys := Table.empty }, Table.empty⟩, Table.empty⟩

/-! ## What a statement does -/

variable {now : Nat} {r r' : Registry}

@[grind →]
theorem approveDevicePairing_some {pairingID : UUID} {encryptedPayload signature : String}
    (h : approveDevicePairing r now pairingID encryptedPayload signature = some r') :
    ∃ old, r.pairings.get? pairingID = some old ∧ old.status = .pending ∧ formatTime now < old.terms.expiresAt ∧
      r'.db = r.db ∧ ∀ id, r'.pairings.get? id =
        if id = pairingID then some ⟨old.terms, .approved, encryptedPayload, signature, formatTime now, old.consumedAt⟩
        else r.pairings.get? id := by
  unfold approveDevicePairing at h
  split at h
  · rename_i hany
    obtain ⟨old, hold, happrovable⟩ := (Option.any_eq_true _ _).1 hany
    have hparts := happrovable
    simp only [approvable, Bool.and_eq_true, decide_eq_true_eq] at hparts
    refine ⟨old, hold, hparts.1, hparts.2, by rw [← Option.some.inj h], fun id => ?_⟩
    rw [← Option.some.inj h, Table.get?_updateWhere]
    split
    · rename_i hid
      subst hid
      rw [hold, Option.map_some]
      simp [happrovable]
    · rename_i hid
      simp [hid]
  · cases h

variable {db db' : Database} {keyID : UUID}

theorem activateKey_some {t : Terms} (h : activateKey db now keyID t = some db') : ∀ material,
      db'.deviceKeys.get? material = db.deviceKeys.get? material ∨
        (material = t.material ∧ ∃ key, db'.deviceKeys.get? material = some key ∧ key.status = .active ∧
          key.signPublic = t.signPublic) := by
  intro material
  unfold activateKey at h
  split at h
  · cases h
  rw [← Option.some.inj h, Table.get?_upsert]
  split
  · rename_i hmaterial
    right
    refine ⟨hmaterial, _, rfl, ?_⟩
    cases db.deviceKeys.get? t.material with
    | none | some old => exact ⟨rfl, rfl⟩
  · exact .inl rfl

theorem bindSession_deviceKeys {userID sessionID : UUID} {material : Material}
    (h : bindSession db userID sessionID material = some db') : db'.deviceKeys = db.deviceKeys := by
  grind [bindSession]

@[grind →]
theorem consumeDevicePairing_some {pairingID sessionID : UUID}
    (h : consumeDevicePairing r now keyID pairingID sessionID = some r') :
    ∃ old, r.pairings.get? pairingID = some old ∧ old.status = .approved ∧ formatTime now < old.terms.expiresAt ∧
      (∀ id, r'.pairings.get? id =
        if id = pairingID then some { old with status := .consumed, consumedAt := formatTime now }
        else r.pairings.get? id) ∧
      ∀ material, r'.db.deviceKeys.get? material = r.db.deviceKeys.get? material ∨
        (material = old.terms.material ∧ ∃ key, r'.db.deviceKeys.get? material = some key ∧ key.status = .active ∧
          key.signPublic = old.terms.signPublic) := by
  simp only [consumeDevicePairing, Option.bind_eq_bind, Option.bind_eq_some_iff, Option.pure_def,
    Option.some.injEq, Option.filter_eq_some_iff] at h
  obtain ⟨old, ⟨hold, hconsumable⟩, db₁, hkey, db₂, hsession, rfl⟩ := h
  simp only [consumable, Bool.and_eq_true, decide_eq_true_eq] at hconsumable
  refine ⟨old, hold, hconsumable.1, hconsumable.2, fun id => ?_, fun material => ?_⟩
  · rw [Table.get?_updateWhere]
    split
    · rename_i hid
      subst hid
      rw [hold, Option.map_some]
      simp [hconsumable.1]
    · rename_i hid
      simp [hid]
  · simp only [bindSession_deviceKeys hsession]
    exact activateKey_some hkey material

@[grind →]
theorem revokeDeviceKey_some {userID : UUID}
    (h : revokeDeviceKey db now userID keyID = some db') {material : Material} {key : DeviceKey}
    (hkey : db'.deviceKeys.get? material = some key) (hactive : key.status = .active) :
    db.deviceKeys.get? material = some key := by
  unfold revokeDeviceKey at h
  split at h
  · cases h
  rw [← Option.some.inj h, Table.get?_updateWhere, Option.map_eq_some_iff] at hkey
  obtain ⟨old, hold, rfl⟩ := hkey
  split at hactive
  · cases hactive
  rename_i hnot
  rw [if_neg hnot]
  exact hold

/-! ## What a step does -/

/-- What may become of the registry: nothing changes, or one of the four statements that write has run. -/
inductive Effect (tick : Tick) (r : Registry) : Call → Registry → Prop where
  | none {call : Call} : Effect tick r call r
  | start {call : Call} {terms : Terms} : r.pairings.get? tick.id = Option.none →
      Effect tick r call { r with pairings := r.pairings.insertOrIgnore tick.id ⟨terms, .pending, "", "", "", ""⟩ }
  | approve {userID pairingID : UUID} {secret payload signature approver device : String} {terms : Terms} {r' : Registry} :
      approveDevicePairing r tick.now pairingID payload (toLower signature) = some r' →
      Effect tick r ⟨.approve userID pairingID secret payload signature approver device, .attested terms⟩ r'
  | consume {call : Call} {keyID pairingID sessionID : UUID} {r' : Registry} :
      consumeDevicePairing r tick.now keyID pairingID sessionID = some r' → Effect tick r call r'
  | revoke {call : Call} {userID keyID : UUID} {db : Database} : revokeDeviceKey r.db tick.now userID keyID = some db →
      Effect tick r call { r with db := db }

section Effects

variable {w : World} {tick : Tick} {r : Registry}

theorem next_effect (call : Call) : Effect tick r call (next w tick r call).1 := by
  obtain ⟨request, stage⟩ := call
  cases request with
  | start userID identityID label boxPublic kemPublic signPublic =>
    simp only [next, nextStage]
    fun_cases nextStart <;> try exact .none
    rename_i hfree _
    exact .start (Option.not_isSome_iff_eq_none.1 fun hsome => hfree (.inr hsome))
  | approve userID pairingID secret payload signature approver device =>
    simp only [next, nextStage]
    fun_cases nextApprove <;> try exact .none
    rename_i happrove
    exact .approve (Option.ite_none_left_eq_some.1 happrove).2
  | consume userID pairingID sessionID secret =>
    simp only [next, nextStage]
    fun_cases nextConsume <;> try exact .none
    rename_i hconsume
    exact .consume (Option.ite_none_left_eq_some.1 hconsume).2
  | revokeKey userID keyID =>
    simp only [next, nextStage]
    fun_cases nextRevokeKey <;> try exact .none
    rename_i hrevoke
    exact .revoke (Option.ite_none_left_eq_some.1 hrevoke).2

end Effects

/-! ## Pairings -/

/-- How a pairing may move; approval and consumption are `inTime`. -/
inductive Moves (inTime : Terms → Prop) : Option Pairing → Option Pairing → Prop where
  | same {old : Option Pairing} : Moves inTime old old
  | started {new : Pairing} : new.status = .pending → Moves inTime none (some new)
  | approved {old new : Pairing} : old.status = .pending → new.status = .approved → new.terms = old.terms →
      inTime old.terms → Moves inTime (some old) (some new)
  | consumed {old new : Pairing} : old.status = .approved → new.status = .consumed → new.terms = old.terms →
      inTime old.terms → Moves inTime (some old) (some new)

theorem Effect.moves {tick : Tick} {call : Call} (h : Effect tick r call r') (id : UUID) :
    Moves (fun t => formatTime tick.now < t.expiresAt) (r.pairings.get? id) (r'.pairings.get? id) := by
  cases h with
  | none | revoke => exact .same
  | start hfree =>
    rw [Table.get?_insertOrIgnore]
    split
    · rename_i hid
      rw [hid, hfree]
      exact .started rfl
    · exact .same
  | approve happrove =>
    obtain ⟨old, hold, hpending, htime, -, hget⟩ := approveDevicePairing_some happrove
    rw [hget]
    split
    · rename_i hid
      rw [hid, hold]
      exact .approved hpending rfl rfl htime
    · exact .same
  | consume hconsume =>
    obtain ⟨old, hold, happroved, htime, hget, -⟩ := consumeDevicePairing_some hconsume
    rw [hget]
    split
    · rename_i hid
      rw [hid, hold]
      exact .consumed happroved rfl rfl htime
    · exact .same

/-- A pairing stays, with its terms, and does not go back. -/
def Follows (old new : Option Pairing) : Prop :=
  ∀ pairing, old = some pairing → ∃ later, new = some later ∧ later.terms = pairing.terms ∧
    (pairing.status = .consumed → later.status = .consumed)

theorem Moves.follows {inTime : Terms → Prop} {old new : Option Pairing} (h : Moves inTime old new) : Follows old new := by
  rintro pairing rfl
  cases h <;> grind

theorem Follows.trans {a b c : Option Pairing} (h : Follows a b) (h' : Follows b c) : Follows a c := by
  grind [Follows]

/-! ## Signatures -/

/-- The signature over the pairing and the payload is one of the identity's key. -/
def Signed (w : World) (id : UUID) (t : Terms) (encryptedPayload signature : String) : Prop :=
  ∃ identity ∈ w.identities.get? t.identityID, ∃ publicKey ∈ identityKey identity.publicRecord,
    verifies w.crypto publicKey (pairingApprovalPayload w.crypto id t encryptedPayload) signature = true

theorem signed_toLower {w : World} {id : UUID} {t : Terms} {encryptedPayload signature : String}
    (h : Signed w id t encryptedPayload signature) : Signed w id t encryptedPayload (toLower signature) := by
  grind [verifies, hexDecode_map_lowerChar, Signed]

/-- Approved pairings are signed, and an active key was consumed from a pairing with its material and signing key. -/
structure Sound (w : World) (r : Registry) : Prop where
  signed : ∀ id pairing, r.pairings.get? id = some pairing → pairing.status ≠ .pending →
    Signed w id pairing.terms pairing.encryptedPayload pairing.approvalSignature
  paired : ∀ material key, r.db.deviceKeys.get? material = some key → key.status = .active →
    ∃ id pairing, r.pairings.get? id = some pairing ∧ pairing.status = .consumed ∧
      pairing.terms.material = material ∧ pairing.terms.signPublic = key.signPublic

def Stage.read : Stage → Option Terms
  | .found terms | .signed terms | .attesting terms _ | .attested terms => some terms
  | _ => none

def Stage.verified : Stage → Option Terms
  | .signed terms | .attesting terms _ | .attested terms => some terms
  | _ => none

/-- What an approval has read is still so, and what it has verified is signed. -/
def Checked (w : World) (r : Registry) (call : Call) : Prop :=
  ∀ userID pairingID secret payload signature approver device,
    call.request = .approve userID pairingID secret payload signature approver device →
    (∀ terms, call.stage.read = some terms → ∃ pairing, r.pairings.get? pairingID = some pairing ∧ pairing.terms = terms) ∧
    ∀ terms, call.stage.verified = some terms → Signed w pairingID terms payload signature

section Soundness

variable {w : World} {tick : Tick} {r r' : Registry}

/-- What a step of an approval has read was read before or is in the registry, and what it has verified was verified
before or is signed. -/
theorem nextApprove_holds {userID pairingID : UUID} {secret payload signature approver device : String} {stage : Stage}
    {terms : Terms} {result : Stage}
    (hresult : (nextApprove w tick r userID pairingID secret payload signature approver device stage).2 = result) :
    (result.read = some terms → stage.read = some terms ∨
      ∃ pairing, r.pairings.get? pairingID = some pairing ∧ pairing.terms = terms) ∧
    (result.verified = some terms → stage.verified = some terms ∨ Signed w pairingID terms payload signature) := by
  revert hresult
  fun_cases nextApprove <;> rintro rfl <;>
    grind [Stage.read, Stage.verified, Option.filter_eq_some_iff, Signed, get]

variable {call : Call}

theorem Checked.follows (h : Checked w r call)
    (hfollows : ∀ id, Follows (r.pairings.get? id) (r'.pairings.get? id)) : Checked w r' call := by
  intro userID pairingID secret payload signature approver device hrequest
  obtain ⟨hread, hverified⟩ := h userID pairingID secret payload signature approver device hrequest
  refine ⟨fun terms hterms => ?_, hverified⟩
  obtain ⟨pairing, hpairing, rfl⟩ := hread terms hterms
  obtain ⟨later, hlater, hsame, -⟩ := hfollows pairingID pairing hpairing
  exact ⟨later, hlater, hsame⟩

theorem checked_next (h : Checked w r call) : Checked w (next w tick r call).1 (next w tick r call).2 := by
  have hfollows : ∀ id, Follows (r.pairings.get? id) ((next w tick r call).1.pairings.get? id) :=
    fun id => ((next_effect call).moves id).follows
  intro userID pairingID secret payload signature approver device hrequest
  obtain ⟨request, stage⟩ := call
  change request = _ at hrequest
  subst hrequest
  obtain ⟨hread, hverified⟩ := h userID pairingID secret payload signature approver device rfl
  constructor
  · intro terms hterms
    have hbefore : ∃ pairing, r.pairings.get? pairingID = some pairing ∧ pairing.terms = terms :=
      ((nextApprove_holds rfl).1 hterms).elim (hread terms) id
    obtain ⟨pairing, hpairing, rfl⟩ := hbefore
    obtain ⟨later, hlater, hsame, -⟩ := hfollows pairingID pairing hpairing <;> grind
  · intro terms hterms
    exact ((nextApprove_holds rfl).2 hterms).elim (hverified terms) id

theorem Effect.sound (h : Effect tick r call r') (hchecked : Checked w r call) (hsound : Sound w r) : Sound w r' := by
  have hkept : ∀ {material : Material} {key : DeviceKey}, r.db.deviceKeys.get? material = some key →
      key.status = .active → ∃ id pairing, r'.pairings.get? id = some pairing ∧ pairing.status = .consumed ∧
        pairing.terms.material = material ∧ pairing.terms.signPublic = key.signPublic := by
    intro material key hkey hactive
    obtain ⟨id, pairing, hpairing, hconsumed, hmaterial, hsign⟩ := hsound.paired material key hkey hactive
    obtain ⟨later, hlater, hterms, hstatus⟩ := (h.moves id).follows pairing hpairing
    exact ⟨id, later, hlater, hstatus hconsumed, hterms ▸ hmaterial, hterms ▸ hsign⟩
  cases h with
  | none => exact hsound
  | start hfree =>
    refine ⟨fun id pairing hpairing hstatus => ?_, fun material key => hkept⟩
    rw [Table.get?_insertOrIgnore, hfree] at hpairing
    split at hpairing
    · rw [← Option.some.inj hpairing] at hstatus
      exact absurd rfl hstatus
    · exact hsound.signed id pairing hpairing hstatus
  | @approve userID pairingID secret payload signature approver device terms _ happrove =>
    obtain ⟨old, hold, -, -, hdb, hget⟩ := approveDevicePairing_some happrove
    refine ⟨fun id pairing hpairing hstatus => ?_, fun material key hkey => hkept (hdb ▸ hkey)⟩
    rw [hget] at hpairing
    split at hpairing
    · rename_i hid
      subst hid
      obtain ⟨hread, hverified⟩ := hchecked userID id secret payload signature approver device rfl
      obtain ⟨pairing', hpairing', hterms⟩ := hread terms rfl
      obtain rfl := Option.some.inj (hold.symm.trans hpairing')
      rw [← Option.some.inj hpairing, hterms]
      exact signed_toLower (hverified terms rfl)
    · exact hsound.signed id pairing hpairing hstatus
  | @consume _ keyID pairingID sessionID _ hconsume =>
    obtain ⟨old, hold, happroved, -, hget, hkeys⟩ := consumeDevicePairing_some hconsume
    refine ⟨fun id pairing hpairing hstatus => ?_, fun material key hkey hactive => ?_⟩
    · rw [hget] at hpairing
      split at hpairing
      · rename_i hid
        subst hid
        rw [← Option.some.inj hpairing]
        exact hsound.signed id old hold (by rw [happroved]; decide)
      · exact hsound.signed id pairing hpairing hstatus
    · rcases hkeys material with hsame | ⟨hmaterial, key', hkey', -, hsign⟩
      · exact hkept (hsame ▸ hkey) hactive
      · obtain rfl := Option.some.inj (hkey.symm.trans hkey')
        exact ⟨pairingID, { old with status := .consumed, consumedAt := formatTime tick.now },
          by rw [hget, if_pos rfl], rfl, hmaterial.symm, hsign.symm⟩
  | revoke hrevoke =>
    exact ⟨hsound.signed, fun material key hkey hactive => hkept (revokeDeviceKey_some hrevoke hkey hactive) hactive⟩

end Soundness

/-! ## Runs -/

section Runs

variable {w : World} {p : System}

theorem sound_step (hsound : Sound w p.shared)
    (hchecked : ∀ n call, p.calls.get? n = some call → Checked w p.shared call) (e : Event) :
    Sound w (step w p e).shared ∧
      ∀ n call, (step w p e).calls.get? n = some call → Checked w (step w p e).shared call := by
  refine Pool.invariant_step (G := fun _ r call => Checked w r call) ?_ ?_ hsound hchecked
  · rintro n request rfl - userID pairingID secret payload signature approver device -
    grind [Stage.read, Call.begin, Stage.verified]
  · rintro n tick call rfl hcall hown
    refine ⟨(next_effect call).sound hown hsound, checked_next hown, fun m other _ _ hother => ?_⟩
    exact hother.follows fun id => ((next_effect call).moves id).follows

theorem sound_exec (db : Database) (es : List Event) : Sound w (exec (step w) (fresh db) es).shared := by
  refine (exec_invariant (P := fun p : System => Sound w p.shared ∧
    ∀ n call, p.calls.get? n = some call → Checked w p.shared call) (fun p e h => sound_step h.1 h.2 e) es ?_).1
  refine ⟨⟨?_, ?_⟩, ?_⟩
  · intro id pairing h
    cases h
  · intro material key h
    cases h
  · intro n call h
    cases h

def clock : Event → Nat
  | .start _ _ => 0
  | .advance _ tick => tick.now

theorem moves_step (p : System) (e : Event) (id : UUID) :
    Moves (fun t => formatTime (clock e) < t.expiresAt) (p.shared.pairings.get? id)
      ((step w p e).shared.pairings.get? id) := by
  refine Pool.shared_step (P := fun r => Moves _ _ (Registry.pairings r |>.get? id)) .same ?_
  rintro n tick call rfl -
  exact (next_effect call).moves id

/-- The key is active. -/
def Active (r : Registry) (material : Material) : Prop := ∃ key, r.db.deviceKeys.get? material = some key ∧ key.status = .active

theorem active_step {e : Event} {material : Material} (h : Active (step w p e).shared material) :
    Active p.shared material ∨ ∃ id pairing later, p.shared.pairings.get? id = some pairing ∧
      pairing.status = .approved ∧ pairing.terms.material = material ∧
      (step w p e).shared.pairings.get? id = some later ∧ later.status = .consumed ∧ later.terms = pairing.terms := by
  cases e with
  | start n request => exact .inl h
  | advance n tick =>
    cases hn : p.calls.get? n with
    | none =>
      rw [step, Pool.step_idle tick hn] at h
      exact .inl h
    | some call =>
      rw [step, Pool.step_advance hn] at h ⊢
      obtain ⟨key, hkey, hactive⟩ := h
      have heffect := @next_effect w tick p.shared call
      generalize (next w tick p.shared call).1 = r' at hkey heffect ⊢
      cases heffect with
      | none | start => exact .inl ⟨key, hkey, hactive⟩
      | approve happrove =>
        obtain ⟨-, -, -, -, hdb, -⟩ := approveDevicePairing_some happrove
        exact .inl ⟨key, hdb ▸ hkey, hactive⟩
      | @consume _ keyID pairingID sessionID _ hconsume =>
        obtain ⟨old, hold, happroved, -, hget, hkeys⟩ := consumeDevicePairing_some hconsume
        rcases hkeys material with hsame | ⟨hmaterial, -⟩
        · exact .inl ⟨key, hsame ▸ hkey, hactive⟩
        · exact .inr ⟨pairingID, old, { old with status := .consumed, consumedAt := formatTime tick.now }, hold, happroved,
            hmaterial.symm, by rw [hget, if_pos rfl], rfl, rfl⟩
      | revoke hrevoke => exact .inl ⟨key, revokeDeviceKey_some hrevoke hkey hactive, hactive⟩

/-- Of the key's pairings none was approved in `p`; since then pairings have followed, and if the key is active,
one of its pairings that was not approved then has been consumed. -/
structure Since (p : System) (material : Material) (q : System) : Prop where
  follows : ∀ id, Follows (p.shared.pairings.get? id) (q.shared.pairings.get? id)
  active : Active q.shared material → ∃ id pairing, q.shared.pairings.get? id = some pairing ∧
    pairing.status = .consumed ∧ pairing.terms.material = material ∧
    ∀ old, p.shared.pairings.get? id = some old → old.status = .pending

theorem since_step {q : System} {material : Material}
    (hnone : ∀ id old, p.shared.pairings.get? id = some old → old.terms.material = material → old.status ≠ .approved)
    (h : Since p material q) (e : Event) : Since p material (step w q e) where
  follows id := (h.follows id).trans (moves_step q e id).follows
  active hactive := by
    rcases active_step hactive with hbefore | ⟨id, pairing, later, hpairing, happroved, hmaterial, hlater, hconsumed, hterms⟩
    · obtain ⟨id, pairing, hpairing, hconsumed, hmaterial, hold⟩ := h.active hbefore
      obtain ⟨later, hlater, hterms, hstatus⟩ := (moves_step q e id).follows pairing hpairing
      exact ⟨id, later, hlater, hstatus hconsumed, hterms ▸ hmaterial, hold⟩
    · refine ⟨id, later, hlater, hconsumed, hterms ▸ hmaterial, fun old hold => ?_⟩
      -- it was not approved then, and had it been consumed it would still be
      obtain ⟨pairing', hpairing', hsame, hstays⟩ := h.follows id old hold
      obtain rfl := Option.some.inj (hpairing.symm.trans hpairing')
      cases hstatus : old.status with
      | pending => rfl
      | approved => grind
      | consumed =>
        grind

end Runs

/-- In any interleaving: a pairing only moves from pending to approved to consumed, and not after its expiry if the
text of the clock compares with it as the times do. An active key has a consumed pairing with its identity, box, KEM
and signing key, which was approved under a valid signature of the identity. A key that was revoked while none of its
pairings was approved is active again only by one that was approved and consumed since. -/
theorem pairings_and_keys (w : World) (db : Database) (es : List Event) :
    (∀ e id,
      (∀ pairing, (exec (step w) (fresh db) es).shared.pairings.get? id = some pairing →
        formatTime (clock e) < pairing.terms.expiresAt → clock e ≤ parseTime pairing.terms.expiresAt) →
      Moves (fun t => clock e ≤ parseTime t.expiresAt) ((exec (step w) (fresh db) es).shared.pairings.get? id)
        ((exec (step w) (fresh db) (es ++ [e])).shared.pairings.get? id)) ∧
    (∀ material key, (exec (step w) (fresh db) es).shared.db.deviceKeys.get? material = some key → key.status = .active →
      ∃ id pairing, (exec (step w) (fresh db) es).shared.pairings.get? id = some pairing ∧ pairing.status = .consumed ∧
        pairing.terms.material = material ∧ pairing.terms.signPublic = key.signPublic ∧
        Signed w id pairing.terms pairing.encryptedPayload pairing.approvalSignature) ∧
    ∀ e material fs, Active (exec (step w) (fresh db) es).shared material →
      ¬ Active (exec (step w) (fresh db) (es ++ [e])).shared material →
      (∀ id pairing, (exec (step w) (fresh db) es).shared.pairings.get? id = some pairing →
        pairing.terms.material = material → pairing.status ≠ .approved) →
      Active (exec (step w) (fresh db) (es ++ e :: fs)).shared material →
      ∃ id pairing, (exec (step w) (fresh db) (es ++ e :: fs)).shared.pairings.get? id = some pairing ∧
        pairing.status = .consumed ∧ pairing.terms.material = material ∧
        ∀ old, (exec (step w) (fresh db) es).shared.pairings.get? id = some old → old.status = .pending := by
  refine ⟨?_, ?_, ?_⟩
  · intro e id htimes
    grind [exec_append, moves_step, Moves]
  · intro material key hkey hactive
    have hsound := sound_exec (w := w) db es
    grind [hsound.paired, hsound.signed]
  · intro e material fs _ hrevoked hnone hactive
    rw [exec_append, exec_cons, exec_nil] at hrevoked
    rw [exec_append, exec_cons] at hactive ⊢
    have hsince : Since (exec (step w) (fresh db) es) material (step w (exec (step w) (fresh db) es) e) :=
      ⟨fun id => (moves_step _ e id).follows, fun h => absurd h hrevoked⟩
    exact (exec_invariant (P := Since (exec (step w) (fresh db) es) material)
      (fun _ e h => since_step hnone h e) fs hsince).active hactive

/-! ## Samples -/

section Samples

def zeros (n : Nat) : String := String.ofList (List.replicate n '0')

theorem hexDecode_replicate : ∀ n, hexDecode (List.replicate (2 * n) '0') = some (List.replicate n 0)
  | 0 => rfl
  | n + 1 => by
    have hzero : hexDigit '0' = some 0 := by decide
    rw [show 2 * (n + 1) = 2 * n + 1 + 1 from rfl, List.replicate_succ, List.replicate_succ, hexDecode,
      hexDecode_replicate n, hzero]
    rfl

theorem validHex_zeros (n : Nat) : validHex (zeros (2 * n)) (2 * n) = true := by
  have hlen : len (zeros (2 * n)) = 2 * n := by
    simp [len, zeros, show '0'.utf8Size = 1 from rfl]
  rw [validHex, hlen, zeros, String.toList_ofList, hexDecode_replicate]
  simp

def sampleWorld : World where
  crypto := Federation.Wire.constant
  identities := Table.empty.insertOrIgnore (.ofByte 1)
    ⟨.ofByte 11, true, bytes ("\x7b\"public_keys\":\x7b\"identity\":\"" ++ zeros 64 ++ "\"\x7d\x7d")⟩

def sampleNow : Nat := 63919886400 * second

def sampleTick (id : UInt8) : Tick := ⟨sampleNow, .ofByte id, List.replicate 32 0, false, false⟩

def sampleSignature : String := String.ofList (List.replicate 64 ['0', '1']).flatten

def sampleStart : Request := .start (.ofByte 11) (.ofByte 1) "phone" (zeros 64) (zeros 3136) (zeros 64)

def sampleApprove (id : UInt8) : Request :=
  .approve (.ofByte 11) (.ofByte id) (zeros 64) (zeros 32) sampleSignature "" ""

def sampleConsume (id : UInt8) : Request := .consume (.ofByte 11) (.ofByte id) .nil (zeros 64)

def sampleRevoke : Request := .revokeKey (.ofByte 11) (.ofByte 31)

def sampleTerms : Terms where
  userID := .ofByte 11
  identityID := .ofByte 1
  secretHash := hexEncode (List.replicate 32 0)
  deviceLabel := trimSpace "phone"
  boxPublic := toLower (zeros 64)
  kemPublic := toLower (zeros 3136)
  signPublic := toLower (zeros 64)
  expiresAt := formatTime (sampleNow + pairingTTL)

def sampleKey : DeviceKey :=
  ⟨.ofByte 31, .ofByte 11, trimSpace "phone", toLower (zeros 64), .active, formatTime sampleNow, ""⟩

variable {r : Registry}

def sampleApproved : Pairing :=
  ⟨sampleTerms, .approved, zeros 32, toLower sampleSignature, formatTime sampleNow, ""⟩

theorem sample_inTime : formatTime sampleNow < sampleTerms.expiresAt ∧ sampleNow ≤ parseTime sampleTerms.expiresAt := by
  decide +kernel

theorem sample_get {id : UInt8} {status : Status} {payload signature approvedAt : String} (hstatus : status ≠ .consumed)
    (hpairing : r.pairings.get? (.ofByte id) = some ⟨sampleTerms, status, payload, signature, approvedAt, ""⟩) (tick : UInt8) :
    get sampleWorld (sampleTick tick) r (.ofByte 11) (.ofByte id) (zeros 64) =
      some ⟨sampleTerms, status, payload, signature, approvedAt, ""⟩ := by
  have hsecret : pairingSecretMatches sampleWorld.crypto sampleTerms.secretHash (zeros 64) = true := by decide +kernel
  have hnow : ¬ parseTime sampleTerms.expiresAt < sampleNow := Nat.not_lt.2 sample_inTime.2
  have howner : sampleTerms.userID = .ofByte 11 := rfl
  simp only [get, sampleTick, Bool.false_eq_true, if_false, hpairing, Option.filter_some, hsecret, hnow, howner]
  simp [hstatus]

theorem sample_verifies (publicKey : Bytes) (message : String) :
    verifies sampleWorld.crypto publicKey message sampleSignature = true := by
  have hdecode : hexDecode sampleSignature.toList = some (List.replicate 64 1) := by decide +kernel
  rw [verifies, hdecode]
  rfl

def sampleCall (n : Nat) (request : Request) (ticks : List Tick) : List Event := .start n request :: ticks.map (.advance n)

/-- The registry is `r`, and the numbers from `n` on are free. -/
def At (p : System) (r : Registry) (n : Nat) : Prop := p.shared = r ∧ ∀ m, n ≤ m → p.calls.get? m = none

theorem At.call {p : System} {n : Nat} (h : At p r n) (request : Request) (ticks : List Tick) {r' : Registry}
    (hrun : (Pool.alone (next sampleWorld) r (Call.begin request) ticks).1 = r') :
    At (exec (step sampleWorld) p (sampleCall n request ticks)) r' (n + 1) := by
  obtain ⟨hshared, -, hothers⟩ := 
    @Pool.exec_alone _ _ _ _ Call.begin (next sampleWorld) _ _ (h.2 n le_rfl) request ticks
  refine ⟨hshared.trans (by rw [h.1, hrun]), fun m hm => ?_⟩
  exact (hothers m (by omega)).trans (h.2 m (by omega))

/-- The registry has these pairings and this database, and the numbers from `n` on are free. -/
def Holds (p : System) (f : UUID → Option Pairing) (db : Database) (n : Nat) : Prop :=
  ∃ r, At p r n ∧ r.db = db ∧ ∀ id, r.pairings.get? id = f id

variable {p : System} {f : UUID → Option Pairing} {db : Database} {n : Nat}

theorem Holds.start (h : Holds p f db n) (id : UInt8) (hid : UUID.ofByte id ≠ .nil) (hfree : f (.ofByte id) = none) :
    Holds (exec (step sampleWorld) p (sampleCall n sampleStart [sampleTick 0, sampleTick id]))
      (Function.update f (.ofByte id) (some ⟨sampleTerms, .pending, "", "", "", ""⟩)) db (n + 1) := by
  obtain ⟨r, hr, hdb, hget⟩ := h
  rw [← hget] at hfree
  have howner : (sampleWorld.identities.get? (.ofByte 1)).any (fun i => i.userID = .ofByte 11 && i.isActive) = true := by
    decide +kernel
  have hrequest : ¬ ((UUID.ofByte 11 = .nil ∨ UUID.ofByte 1 = .nil ∨ !validHex (zeros 64) 64 ∨
      !validHex (zeros 3136) 3136 ∨ !validHex (zeros 64) 64) : Prop) := by
    rw [validHex_zeros 32, validHex_zeros 1568]
    decide
  have hlabel : ¬ (trimSpace "phone" = "" ∨ 80 < (trimSpace "phone").toList.length) := by decide +kernel
  have hfirst : nextStart sampleWorld (sampleTick 0) r (.ofByte 11) (.ofByte 1) "phone" (zeros 64) (zeros 3136) (zeros 64)
      .started = (r, .owned) := by
    rw [nextStart, if_neg hrequest, howner]
    rfl
  refine ⟨{ r with pairings := r.pairings.insertOrIgnore (.ofByte id) ⟨sampleTerms, .pending, "", "", "", ""⟩ },
    hr.call _ _ ?_, hdb, fun id' => ?_⟩
  · simp only [Pool.alone, List.foldl, next, nextStage, Call.begin, sampleStart, hfirst]
    simp only [nextStart, if_neg hlabel, sampleTick, if_neg hid, hfree]
    rfl
  · rw [Table.get?_insertOrIgnore, hfree, hget, Function.update_apply]
    rfl

theorem Holds.approve (h : Holds p f db n) (id : UInt8) (hactive : db.deviceKeys.countWhere (isActiveFor (.ofByte 1)) = 0)
    (hpairing : f (.ofByte id) = some ⟨sampleTerms, .pending, "", "", "", ""⟩) :
    Holds (exec (step sampleWorld) p (sampleCall n (sampleApprove id)
      [sampleTick 0, sampleTick 0, sampleTick 0, sampleTick 0])) (Function.update f (.ofByte id) (some sampleApproved)) db
      (n + 1) := by
  obtain ⟨r, hr, rfl, hget⟩ := h
  rw [← hget] at hpairing
  have hpayload : ¬ (len (zeros 32) < 32 ∨ 65536 < len (zeros 32) ∨ !validHex sampleSignature 128) := by decide +kernel
  have hidentity : (sampleWorld.identities.get? sampleTerms.identityID).filter (fun i => i.userID = .ofByte 11) =
      sampleWorld.identities.get? (.ofByte 1) := by decide +kernel
  have hkey : (sampleWorld.identities.get? (.ofByte 1)).bind (fun i => identityKey i.publicRecord) =
      some (List.replicate 32 0) := by decide +kernel
  obtain ⟨identity, hfound, hkey⟩ := Option.bind_eq_some_iff.1 hkey
  have hfirst : nextApprove sampleWorld (sampleTick 0) r (.ofByte 11) (.ofByte id) (zeros 64) (zeros 32) sampleSignature
      "" "" .started = (r, .found sampleTerms) := by
    grind [nextApprove, sample_get]
  have hsecond : nextApprove sampleWorld (sampleTick 0) r (.ofByte 11) (.ofByte id) (zeros 64) (zeros 32) sampleSignature
      "" "" (.found sampleTerms) = (r, .signed sampleTerms) := by
    simp only [nextApprove, if_neg hpayload, sampleTick, Bool.false_eq_true, if_false, hidentity, hfound, hkey,
      sample_verifies, if_true]
  have hthird : nextApprove sampleWorld (sampleTick 0) r (.ofByte 11) (.ofByte id) (zeros 64) (zeros 32) sampleSignature
      "" "" (.signed sampleTerms) = (r, .attested sampleTerms) := by
    have hcount : r.db.deviceKeys.countWhere (isActiveFor sampleTerms.identityID) = 0 := hactive
    grind [nextApprove, sampleTick]
  have hrun : (Pool.alone (next sampleWorld) r (Call.begin (sampleApprove id))
      [sampleTick 0, sampleTick 0, sampleTick 0, sampleTick 0]).1 =
        (nextApprove sampleWorld (sampleTick 0) r (.ofByte 11) (.ofByte id) (zeros 64) (zeros 32) sampleSignature
          "" "" (.attested sampleTerms)).1 := by
    simp only [Pool.alone, List.foldl, next, nextStage, Call.begin, sampleApprove, hfirst, hsecond, hthird]
  have happrovable : (r.pairings.get? (.ofByte id)).any (approvable sampleNow) = true := by
    simp [hpairing, approvable, sample_inTime.1]
  cases happrove : approveDevicePairing r sampleNow (.ofByte id) (zeros 32) (toLower sampleSignature) with
  | none => simp [approveDevicePairing, happrovable] at happrove
  | some r' =>
    obtain ⟨old, hold, -, -, hdb, hget'⟩ := approveDevicePairing_some happrove
    obtain rfl := Option.some.inj (hpairing.symm.trans hold)
    refine ⟨r', hr.call _ _ (hrun.trans ?_), hdb, fun id' => ?_⟩
    · simp only [nextApprove, sampleTick, Bool.false_eq_true, if_false, happrove]
    · rw [hget', hget, Function.update_apply]
      rfl

theorem Holds.consume (h : Holds p f db n) (id keyID : UInt8) (hpairing : f (.ofByte id) = some sampleApproved)
    {db' : Database} (hkey : activateKey db sampleNow (.ofByte keyID) sampleTerms = some db') :
    Holds (exec (step sampleWorld) p (sampleCall n (sampleConsume id) [sampleTick 0, sampleTick keyID]))
      (Function.update f (.ofByte id)
        (some { sampleApproved with status := .consumed, consumedAt := formatTime sampleNow })) db' (n + 1) := by
  obtain ⟨r, hr, rfl, hget⟩ := h
  rw [← hget] at hpairing
  have hfirst : nextConsume sampleWorld (sampleTick 0) r (.ofByte 11) (.ofByte id) .nil (zeros 64) .started =
      (r, .found sampleTerms) := by
    rw [nextConsume, sample_get (by decide) hpairing]
    rfl
  have hrun : (Pool.alone (next sampleWorld) r (Call.begin (sampleConsume id)) [sampleTick 0, sampleTick keyID]).1 =
      (nextConsume sampleWorld (sampleTick keyID) r (.ofByte 11) (.ofByte id) .nil (zeros 64) (.found sampleTerms)).1 := by
    simp only [Pool.alone, List.foldl, next, nextStage, Call.begin, sampleConsume, hfirst]
  have hfound : (r.pairings.get? (.ofByte id)).filter (consumable sampleNow) = some sampleApproved := by
    simp [hpairing, consumable, sampleApproved, sample_inTime.1]
  cases hconsume : consumeDevicePairing r sampleNow (.ofByte keyID) (.ofByte id) .nil with
  | none =>
    have hterms : sampleApproved.terms = sampleTerms := rfl
    grind [consumeDevicePairing, bindSession]
  | some r' =>
    have hdb : r'.db = db' := by
      have hterms : sampleApproved.terms = sampleTerms := rfl
      grind [consumeDevicePairing, bindSession]
    obtain ⟨old, hold, -, -, hget', -⟩ := consumeDevicePairing_some hconsume
    obtain rfl := Option.some.inj (hpairing.symm.trans hold)
    refine ⟨r', hr.call _ _ (hrun.trans ?_), hdb, fun id' => ?_⟩
    · simp only [nextConsume, sampleTick, Bool.false_eq_true, if_false, hconsume]
    · rw [hget', hget, Function.update_apply]

theorem Holds.revoke (h : Holds p f db n) {db' : Database}
    (hkey : revokeDeviceKey db sampleNow (.ofByte 11) (.ofByte 31) = some db') :
    Holds (exec (step sampleWorld) p (sampleCall n sampleRevoke [sampleTick 0])) f db' (n + 1) := by
  obtain ⟨r, hr, rfl, hget⟩ := h
  have hids : ¬ (UUID.ofByte 11 = .nil ∨ UUID.ofByte 31 = .nil) := by decide
  refine ⟨{ r with db := db' }, hr.call _ _ ?_, rfl, hget⟩
  simp only [Pool.alone, List.foldl, next, nextStage, Call.begin, sampleRevoke, nextRevokeKey, if_neg hids, sampleTick,
    Bool.false_eq_true, if_false, hkey]

def sampleDatabase : Database := ⟨Table.empty, Table.empty, Table.empty⟩

def sampleKeyed : Database := { sampleDatabase with deviceKeys := ⟨[(sampleTerms.material, sampleKey)], List.nodup_singleton _⟩ }

def sampleRevoked : Database :=
  { sampleDatabase with
    deviceKeys := ⟨[(sampleTerms.material, { sampleKey with status := .revoked, revokedAt := formatTime sampleNow })],
      List.nodup_singleton _⟩ }

theorem activate_first : activateKey sampleDatabase sampleNow (.ofByte 31) sampleTerms = some sampleKeyed := rfl

theorem revoke_first : revokeDeviceKey sampleKeyed sampleNow (.ofByte 11) (.ofByte 31) = some sampleRevoked := rfl

theorem get?_sampleRevoked : sampleRevoked.deviceKeys.get? sampleTerms.material =
    some { sampleKey with status := .revoked, revokedAt := formatTime sampleNow } :=
  Table.get?_eq_some.2 List.mem_cons_self

theorem activate_again (keyID : UUID) : ∃ db, activateKey sampleRevoked sampleNow keyID sampleTerms = some db ∧
    db.deviceKeys.get? sampleTerms.material = some sampleKey := by
  refine ⟨_, by rw [activateKey, get?_sampleRevoked]; rfl, ?_⟩
  simp only [Table.get?_upsert, if_true, get?_sampleRevoked]
  rfl

theorem holds_fresh : Holds (fresh sampleDatabase) (fun _ => none) sampleDatabase 0 :=
  ⟨_, ⟨rfl, fun _ _ => rfl⟩, rfl, fun _ => rfl⟩

def sampleTwice : List Event :=
  sampleCall 0 sampleStart [sampleTick 0, sampleTick 21] ++ sampleCall 1 sampleStart [sampleTick 0, sampleTick 22] ++
  sampleCall 2 (sampleApprove 21) [sampleTick 0, sampleTick 0, sampleTick 0, sampleTick 0] ++
  sampleCall 3 (sampleApprove 22) [sampleTick 0, sampleTick 0, sampleTick 0, sampleTick 0] ++
  sampleCall 4 (sampleConsume 21) [sampleTick 0, sampleTick 31]

/-- Then the key is revoked; the second pairing, approved before, makes it active again. -/
theorem revoked_key_active_again :
    ((exec (step sampleWorld) (fresh sampleDatabase) sampleTwice).shared.pairings.get? (.ofByte 22)).map Pairing.status =
        some .approved ∧
      Active (exec (step sampleWorld) (fresh sampleDatabase) sampleTwice).shared sampleTerms.material ∧
      ¬ Active (exec (step sampleWorld) (fresh sampleDatabase) (sampleTwice ++ sampleCall 5 sampleRevoke [sampleTick 0])).shared
        sampleTerms.material ∧
      Active (exec (step sampleWorld) (fresh sampleDatabase) (sampleTwice ++ sampleCall 5 sampleRevoke [sampleTick 0] ++
        sampleCall 6 (sampleConsume 22) [sampleTick 0, sampleTick 32])).shared sampleTerms.material := by
  have htwice := ((((holds_fresh.start 21 (by decide) rfl).start 22 (by decide) rfl).approve 21 rfl rfl).approve 22 rfl
    rfl).consume 21 31 rfl activate_first
  simp only [← exec_append] at htwice
  have hrevoke := htwice.revoke revoke_first
  obtain ⟨db, hagain, hactive⟩ := activate_again (.ofByte 32)
  obtain ⟨r'', hr'', hdb'', -⟩ := hrevoke.consume 22 32 rfl hagain
  obtain ⟨r', hr', hdb', -⟩ := hrevoke
  obtain ⟨r, hr, hdb, hget⟩ := htwice
  refine ⟨?_, ?_, ?_, ?_⟩
  · rw [sampleTwice, hr.1, hget]
    rfl
  · rw [sampleTwice, hr.1]
    exact ⟨sampleKey, by rw [hdb]; exact Table.get?_eq_some.2 List.mem_cons_self, rfl⟩
  · rw [exec_append, sampleTwice, hr'.1, Active, hdb']
    grind [sampleRevoked]
  · rw [exec_append, exec_append, sampleTwice, hr''.1, Active, hdb'']
    exact ⟨sampleKey, hactive, rfl⟩

def sampleOnce : List Event :=
  sampleCall 0 sampleStart [sampleTick 0, sampleTick 21] ++
  sampleCall 1 (sampleApprove 21) [sampleTick 0, sampleTick 0, sampleTick 0, sampleTick 0] ++
  sampleCall 2 (sampleConsume 21) [sampleTick 0, sampleTick 31]

def sampleAgain : List Event :=
  sampleCall 4 sampleStart [sampleTick 0, sampleTick 22] ++
  sampleCall 5 (sampleApprove 22) [sampleTick 0, sampleTick 0, sampleTick 0, sampleTick 0] ++
  sampleCall 6 (sampleConsume 22) [sampleTick 0, sampleTick 32]

/-- A key is revoked when no pairing of it is open, and made active again by a new one. -/
theorem paired_again :
    Moves (fun t => clock (.advance 3 (sampleTick 0)) ≤ parseTime t.expiresAt)
        ((exec (step sampleWorld) (fresh sampleDatabase) (sampleOnce ++ [.start 3 sampleRevoke])).shared.pairings.get?
          (.ofByte 21))
        ((exec (step sampleWorld) (fresh sampleDatabase) ((sampleOnce ++ [.start 3 sampleRevoke]) ++
          [.advance 3 (sampleTick 0)])).shared.pairings.get? (.ofByte 21)) ∧
      (∃ id pairing, (exec (step sampleWorld) (fresh sampleDatabase)
          (sampleOnce ++ [.start 3 sampleRevoke])).shared.pairings.get? id = some pairing ∧ pairing.status = .consumed ∧
        pairing.terms.material = sampleTerms.material ∧ pairing.terms.signPublic = sampleKey.signPublic ∧
        Signed sampleWorld id pairing.terms pairing.encryptedPayload pairing.approvalSignature) ∧
      ∃ id pairing, (exec (step sampleWorld) (fresh sampleDatabase) ((sampleOnce ++ [.start 3 sampleRevoke]) ++
          .advance 3 (sampleTick 0) :: sampleAgain)).shared.pairings.get? id = some pairing ∧
        pairing.status = .consumed ∧ pairing.terms.material = sampleTerms.material ∧
        ∀ old, (exec (step sampleWorld) (fresh sampleDatabase)
          (sampleOnce ++ [.start 3 sampleRevoke])).shared.pairings.get? id = some old → old.status = .pending := by
  have honce := ((holds_fresh.start 21 (by decide) rfl).approve 21 rfl rfl).consume 21 31 rfl activate_first
  simp only [← exec_append] at honce
  have hrevoke := honce.revoke revoke_first
  -- the second pairing
  obtain ⟨db, hagain, hactive⟩ := activate_again (.ofByte 32)
  obtain ⟨r6, hr6, hdb6, -⟩ := ((hrevoke.start 22 (by decide) rfl).approve 22 rfl rfl).consume 22 32 rfl hagain
  obtain ⟨r', hr', hdb', -⟩ := hrevoke
  obtain ⟨r, hr, hdb, hget⟩ := honce
  have hbegun : (exec (step sampleWorld) (fresh sampleDatabase) (sampleOnce ++ [.start 3 sampleRevoke])).shared = r := by
    rw [exec_append, exec_cons, exec_nil, step, Pool.shared_start, ← step, sampleOnce, hr.1]
  have hsplit : ∀ fs, exec (step sampleWorld) (fresh sampleDatabase) ((sampleOnce ++ [.start 3 sampleRevoke]) ++
      .advance 3 (sampleTick 0) :: fs) = exec (step sampleWorld) (exec (step sampleWorld)
        (exec (step sampleWorld) (fresh sampleDatabase) sampleOnce) (sampleCall 3 sampleRevoke [sampleTick 0])) fs := by
    intro fs
    simp only [exec_append, exec_cons, exec_nil, sampleCall, List.map_cons, List.map_nil]
  obtain ⟨hmoves, hsigned, hsince⟩ := pairings_and_keys sampleWorld sampleDatabase (sampleOnce ++ [.start 3 sampleRevoke])
  refine ⟨hmoves _ _ ?_, hsigned _ sampleKey ?_ rfl, hsince _ _ _ ?_ ?_ ?_ ?_⟩
  · intro pairing hpairing _
    rw [hbegun, hget, Function.update_self, Option.some.injEq] at hpairing
    rw [← hpairing]
    exact sample_inTime.2
  · rw [hbegun, hdb]
    exact Table.get?_eq_some.2 List.mem_cons_self
  · rw [hbegun]
    exact ⟨sampleKey, by rw [hdb]; exact Table.get?_eq_some.2 List.mem_cons_self, rfl⟩
  · rw [hsplit [], exec_nil, sampleOnce, hr'.1]
    rintro ⟨key, hkey, hstatus⟩
    rw [hdb', get?_sampleRevoked, Option.some.injEq] at hkey
    rw [← hkey] at hstatus
    cases hstatus
  · intro id pairing hpairing _
    rw [hbegun, hget] at hpairing
    by_cases hid : id = .ofByte 21
    · rw [hid, Function.update_self, Option.some.injEq] at hpairing
      rw [← hpairing]
      rintro ⟨⟩
    · simp [hid] at hpairing
  · rw [hsplit, sampleAgain, exec_append, exec_append, sampleOnce, hr6.1, Active, hdb6]
    exact ⟨sampleKey, hactive, rfl⟩

end Samples

end GaiaCom.Devices
