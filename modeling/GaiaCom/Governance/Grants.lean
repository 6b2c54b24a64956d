/-
governance/service.go: `CreateGaiasEyesGrant` and `ConsumeGaiasEyesGrant`, one-time grants to read a disclosure package. A
grant is found by the hash of its token and is used by an update that only an active row passes, so at most one of the
calls with a token gets the package, however their statements interleave. The lifetime is multiplied out in 64 bits before
it is clamped: a number of seconds that wraps around gives a lifetime that is too short.
-/
import GaiaCom.Governance.Service
import GaiaCom.Lib.Utf8

namespace GaiaCom.Governance.Grants

open Lib Lib.Calendar Core GaiaCom.Store

/-! ## Tables -/

/-- The columns of abuse_cases that say whom a case is about. -/
structure DisclosureCase where
  reporterIdentityHash : String
  reportedIdentityHash : String
  deriving DecidableEq

/-- A row of gaias_eyes_grants. -/
structure GaiasEyesGrant where
  tokenHash : String
  ownerIdentity : String
  caseID : String
  scope : String
  packageHash : String
  packageData : String
  signature : String
  status : String
  expiresAt : String
  usedAt : String
  createdAt : String
  deriving DecidableEq

/-- The tables. -/
structure Database where
  cases : Table String DisclosureCase
  grants : Table String GaiasEyesGrant
  events : List AbuseCaseEvent

section Statements

variable (db : Database)

/-- `CreateGaiasEyesGrant` of the store: `token_hash` is unique. -/
def createGrant (id : String) (g : GaiasEyesGrant) : Option Database :=
  if (db.grants.get? id).isNone ∧ ∀ r ∈ db.grants.rows, r.2.tokenHash ≠ g.tokenHash then
    some { db with grants := db.grants.insertOrIgnore id g }
  else none

def getGaiasEyesGrantByTokenHash (hash : String) : Option (String × GaiasEyesGrant) :=
  db.grants.rows.find? fun r => r.2.tokenHash = hash

/-- `MarkGaiasEyesGrantUsed`: an error unless there is an active row. -/
def markGaiasEyesGrantUsed (id : String) (usedAt : Nat) : Option Database :=
  if (db.grants.get? id).any fun g => g.status = "active" then
    some { db with grants := db.grants.updateWhere (fun key g => key = id && g.status = "active") fun g =>
      { g with status := "used", usedAt := formatTime usedAt } }
  else none

def createAbuseCaseEvent (e : AbuseCaseEvent) : Option Database :=
  if (db.cases.get? e.caseID).isSome then some { db with events := db.events ++ [e] } else none

end Statements

/-! ## Checks -/

def maxDisclosurePackageBytes : Nat := 256 * 1024

def defaultGaiasEyesTTL : Int64 := 15 * 60 * 1000000000

def maxGaiasEyesTTL : Int64 := 24 * 3600 * 1000000000

/-- `time.Minute` -/
def minute : Int64 := 60 * 1000000000

inductive GrantError where
  | scope | caseNotFound | unauthorized | packageRequired | packageTooLarge | packageInvalid | packageNotObject
  | signatureTooLarge | token | tokenNotFound | tokenUsed | tokenExpired | system
  deriving DecidableEq

def validateDisclosurePackage (packageData : String) : Except GrantError String := do
  let trimmed := trimSpace packageData
  ensure .packageRequired (decide (len trimmed ≠ 0))
  ensure .packageTooLarge (decide (len trimmed ≤ maxDisclosurePackageBytes))
  ensure .packageInvalid (Json.parse trimmed).isSome
  ensure .packageNotObject (decide (trimmed.toList.head? = some '\x7b'))
  return trimmed

def disclosureScopes : List String := ["case", "message", "mail", "file", "profile"]

def normalizeDisclosureScope (cm : CaseMap) (scope : String) : Except GrantError String :=
  let field := canonicalReportField cm scope
  if field = "" then .ok "case" else if field ∈ disclosureScopes then .ok field else .error .scope

/-- `normalizeDisclosureTTL`, in nanoseconds; the product is that of `int64`. -/
def normalizeDisclosureTTL (ttlSeconds : Int64) : Int64 :=
  if ttlSeconds ≤ 0 then defaultGaiasEyesTTL
  else
    let duration := ttlSeconds * 1000000000
    if duration > maxGaiasEyesTTL then maxGaiasEyesTTL else if duration < minute then minute else duration

/-- `now.Add(normalizeDisclosureTTL(ttlSeconds))` -/
def expiry (now : Nat) (ttlSeconds : Int64) : Nat := now + (normalizeDisclosureTTL ttlSeconds).toInt.toNat

section Hashes

variable (sha256 : String → String)

def tokenHash (token : String) : String := "sha256:" ++ sha256 ("gaias-eyes:v1:" ++ token)

def stableBytesHash (value : String) : String := "sha256:" ++ sha256 value

def normalizeGaiaID (cm : CaseMap) (id : String) : String :=
  String.ofList ((trimAt (lowered cm id.toList)).map fun c => if c = '@' then ':' else c)

def reporterIdentityHash (cm : CaseMap) (gaiaID : String) : String := "sha256:" ++ sha256 (normalizeGaiaID cm gaiaID)

/-- `%x` of a string writes its bytes. -/
def legacyReporterIdentityHash (gaiaID : String) : String := "sha256:" ++ hexEncode (Utf8.encode gaiaID.toList)

end Hashes

/-! ## Calls -/

/-- What the world provides for one step: the clock, the id and the token that are drawn, whether the statement fails, and
the credentials. -/
structure Tick where
  now : Nat
  id : UUID
  token : String
  fails : Bool
  credentials : Credentials

/-- A call with its arguments. -/
inductive Request where
  | create (ownerGaiaID caseID scope packageData signature : String) (ttlSeconds : Int64)
  | consume (token : String)
  deriving DecidableEq

/-- How far a call is. -/
inductive Stage where
  | started
  /-- Create: the case is read, the rights are next. -/
  | attaching (c : DisclosureCase)
  /-- Create: the grant is to be inserted. -/
  | granting (packageData : String)
  /-- Create: the grant, inserted at a time, is to be logged. -/
  | granted (id token : String) (createdAt : Nat) (packageHash : String)
  /-- Create: it has returned. -/
  | created (id token : String) (createdAt : Nat)
  /-- Consume: the grant has passed the checks at a time and is to be marked. -/
  | marking (id : String) (grant : GaiasEyesGrant) (now : Nat)
  /-- Consume: the use is to be logged. -/
  | marked (id : String) (grant : GaiasEyesGrant) (now : Nat)
  /-- Consume: the grant with its package is returned, on the strength of the time it was checked at. -/
  | consumed (id : String) (grant : GaiasEyesGrant) (now : Nat)
  | failed (err : GrantError)
  deriving DecidableEq

/-- A call and how far it is. -/
structure Call where
  request : Request
  stage : Stage
  deriving DecidableEq

def Call.begin (request : Request) : Call := ⟨request, .started⟩

section Steps

variable (cm : CaseMap) (sha256 : String → String) (config : Bootstrap) (tick : Tick) (db : Database)

def attempt (statement : Option Database) : Database := if tick.fails then db else statement.getD db

def canAttachDisclosure (actorGaiaID : String) (c : DisclosureCase) : Bool :=
  decide (c.reporterIdentityHash = reporterIdentityHash sha256 cm actorGaiaID) ||
  decide (c.reporterIdentityHash = legacyReporterIdentityHash actorGaiaID) ||
  equalFold (trimSpace c.reportedIdentityHash) (trimSpace actorGaiaID) ||
  ["trusted_reviewer", "senior_reviewer", "node_operator"].any fun role =>
    decide (hasRole cm config tick.credentials tick.now actorGaiaID role = some true)

def checkPackage (packageData signature : String) : Stage :=
  match validateDisclosurePackage packageData with
  | .error err => .failed err
  | .ok clean => if len (trimSpace signature) ≤ 4096 then .granting clean else .failed .signatureTooLarge

/-- `CreateGaiasEyesGrant`. -/
def nextCreate (ownerGaiaID caseID scope packageData signature : String) (ttlSeconds : Int64) : Stage → Database × Stage
  | .started =>
    match normalizeDisclosureScope cm scope with
    | .error err => (db, .failed err)
    | .ok _ =>
      if trimSpace caseID = "" then (db, checkPackage packageData signature)
      else
        match if tick.fails then none else db.cases.get? (trimSpace caseID) with
        | none => (db, .failed .caseNotFound)
        | some c => (db, .attaching c)
  | .attaching c =>
    (db, if canAttachDisclosure cm sha256 config tick ownerGaiaID c then checkPackage packageData signature
      else .failed .unauthorized)
  | .granting clean =>
    let id := "eyes_" ++ tick.id.text
    let packageHash := stableBytesHash sha256 clean
    match if tick.fails then none else createGrant db id
        ⟨tokenHash sha256 tick.token, ownerGaiaID, trimSpace caseID, (normalizeDisclosureScope cm scope).toOption.getD "",
          packageHash, clean, trimSpace signature, "active", formatTime (expiry tick.now ttlSeconds), "",
          formatTime tick.now⟩ with
    | none => (db, .failed .system)
    | some db' =>
      (db', if trimSpace caseID = "" then .created id tick.token tick.now
        else .granted id tick.token tick.now packageHash)
  | .granted id token createdAt packageHash =>
    (attempt tick db (createAbuseCaseEvent db ⟨trimSpace caseID, "gaias_eyes_key_issued", ownerGaiaID,
      "One-time disclosure key issued for scope " ++ (normalizeDisclosureScope cm scope).toOption.getD "" ++
        " with hash " ++ packageHash ++ ".", formatTime createdAt⟩), .created id token createdAt)
  | stage => (db, stage)

def checkGrant (now : Nat) (id : String) (g : GaiasEyesGrant) : Stage :=
  if g.status ≠ "active" ∨ trimSpace g.usedAt ≠ "" then .failed .tokenUsed
  else if parseTime g.expiresAt ≠ 0 ∧ parseTime g.expiresAt < now then .failed .tokenExpired
  else .marking id g now

/-- `ConsumeGaiasEyesGrant`. -/
def nextConsume (token : String) : Stage → Database × Stage
  | .started =>
    if trimSpace token = "" ∨ 256 < len (trimSpace token) then (db, .failed .token)
    else
      match if tick.fails then none else getGaiasEyesGrantByTokenHash db (tokenHash sha256 (trimSpace token)) with
      | none => (db, .failed .tokenNotFound)
      | some (id, g) => (db, checkGrant tick.now id g)
  | .marking id g now =>
    match if tick.fails then none else markGaiasEyesGrantUsed db id now with
    | none => (db, .failed .tokenUsed)
    | some db' => (db', if g.caseID = "" then .consumed id g now else .marked id g now)
  | .marked id g now =>
    (attempt tick db (createAbuseCaseEvent db ⟨g.caseID, "gaias_eyes_key_consumed", "external-disclosure-viewer",
      "One-time disclosure key consumed for package hash " ++ g.packageHash ++ ".", formatTime now⟩), .consumed id g now)
  | stage => (db, stage)

def next (call : Call) : Database × Call :=
  let (db', stage) := match call.request with
    | .create ownerGaiaID caseID scope packageData signature ttlSeconds =>
      nextCreate cm sha256 config tick db ownerGaiaID caseID scope packageData signature ttlSeconds call.stage
    | .consume token => nextConsume sha256 tick db token call.stage
  (db', ⟨call.request, stage⟩)

end Steps

/-- The tables and all calls. -/
abbrev System := Pool Database Call

abbrev Event := Pool.Event Request Tick

def step (cm : CaseMap) (sha256 : String → String) (config : Bootstrap) (s : System) (e : Event) : System :=
  Pool.step Call.begin (next cm sha256 config) s e

def fresh (cases : Table String DisclosureCase) : System := ⟨⟨cases, .empty, []⟩, .empty⟩

/-! ## Lifetimes -/

/-- The lifetime that a number of seconds asks for, in nanoseconds: the number itself, clamped. -/
def lifetime (ttlSeconds : Int64) : Int :=
  if ttlSeconds.toInt ≤ 0 then 15 * 60 * 1000000000
  else max (60 * 1000000000) (min (ttlSeconds.toInt * 1000000000) (24 * 3600 * 1000000000))

theorem normalizeDisclosureTTL_toInt (ttl : Int64) :
    (normalizeDisclosureTTL ttl).toInt =
      if ttl.toInt ≤ 0 then 15 * 60 * 1000000000
      else max (60 * 1000000000) (min (ttl * 1000000000).toInt (24 * 3600 * 1000000000)) := by
  have hmax : maxGaiasEyesTTL.toInt = 24 * 3600 * 1000000000 := by decide
  have hmin : minute.toInt = 60 * 1000000000 := by decide
  have hdefault : defaultGaiasEyesTTL.toInt = 15 * 60 * 1000000000 := by decide
  have hzero : (0 : Int64).toInt = 0 := by decide
  unfold normalizeDisclosureTTL
  simp only [Int64.le_iff_toInt_le, Int64.lt_iff_toInt_lt, gt_iff_lt, hzero]
  split
  · exact hdefault
  split
  · omega
  split <;> omega

theorem toInt_product {ttl : Int64} (hpos : 0 < ttl.toInt) (h : ttl.toInt ≤ 86400) :
    (ttl * 1000000000).toInt = ttl.toInt * 1000000000 := by
  grind [Int64.toInt_mul]

theorem normalizeDisclosureTTL_le (ttl : Int64) : (normalizeDisclosureTTL ttl).toInt ≤ lifetime ttl := by
  rw [normalizeDisclosureTTL_toInt, lifetime]
  split
  · exact le_rfl
  by_cases h : ttl.toInt ≤ 86400
  · rw [toInt_product (by omega) h]
  · omega

theorem normalizeDisclosureTTL_eq_iff (ttl : Int64) :
    (normalizeDisclosureTTL ttl).toInt = lifetime ttl ↔
      ttl.toInt ≤ 86400 ∨ 24 * 3600 * 1000000000 ≤ (ttl * 1000000000).toInt := by
  rw [normalizeDisclosureTTL_toInt, lifetime]
  split
  · simp only [true_iff]
    omega
  · by_cases h : ttl.toInt ≤ 86400
    · rw [toInt_product (by omega) h]
      simp only [h, true_or]
    · omega

theorem minute_le_normalizeDisclosureTTL (ttl : Int64) : 60 * 1000000000 ≤ (normalizeDisclosureTTL ttl).toInt := by
  rw [normalizeDisclosureTTL_toInt]
  split <;> omega

theorem expiry_le (now : Nat) (ttl : Int64) : (expiry now ttl : Int) ≤ now + lifetime ttl := by
  have hle := normalizeDisclosureTTL_le ttl
  have hpos := minute_le_normalizeDisclosureTTL ttl
  unfold expiry
  omega

theorem expiry_pos (now : Nat) (ttl : Int64) : 0 < expiry now ttl := by
  have hpos := minute_le_normalizeDisclosureTTL ttl
  unfold expiry
  omega

/-! ## What a step does -/

def Stage.made : Stage → Option (String × Nat)
  | .granted id _ createdAt _ | .created id _ createdAt => some (id, createdAt)
  | _ => none

def Stage.found : Stage → Option (String × GaiasEyesGrant × Nat)
  | .marking id g now | .marked id g now | .consumed id g now => some (id, g, now)
  | _ => none

def Stage.used : Stage → Bool
  | .marked .. | .consumed .. => true
  | _ => false

def Request.ttl : Request → Option Int64
  | .create _ _ _ _ _ ttlSeconds => some ttlSeconds
  | .consume _ => none

/-- A grant is not expired. -/
def GaiasEyesGrant.Current (g : GaiasEyesGrant) (now : Nat) : Prop :=
  parseTime g.expiresAt = 0 ∨ now ≤ parseTime g.expiresAt

/-- What a step leaves of the grants and where it leaves the call. -/
inductive Effect (sha256 : String → String) (tick : Tick) (grants : Table String GaiasEyesGrant) :
    Call → Table String GaiasEyesGrant → Call → Prop
  | quiet (call : Call) (stage : Stage) (hmade : stage.made = call.stage.made)
      (hfound : stage.found = none ∨ stage.found = call.stage.found ∧ stage.used = call.stage.used) :
      Effect sha256 tick grants call grants ⟨call.request, stage⟩
  | insert (call : Call) (ttl : Int64) (id : String) (g : GaiasEyesGrant) (stage : Stage)
      (httl : call.request.ttl = some ttl) (hmade : call.stage.made = none) (hnew : grants.get? id = none)
      (hhash : ∀ r ∈ grants.rows, r.2.tokenHash ≠ g.tokenHash)
      (hexpires : g.expiresAt = formatTime (expiry tick.now ttl))
      (hstage : stage.made = some (id, tick.now) ∧ stage.found = none) :
      Effect sha256 tick grants call (grants.insertOrIgnore id g) ⟨call.request, stage⟩
  | check (token : String) (id : String) (g : GaiasEyesGrant) (hget : grants.get? id = some g)
      (hhash : g.tokenHash = tokenHash sha256 (trimSpace token)) (hcurrent : g.Current tick.now) :
      Effect sha256 tick grants ⟨.consume token, .started⟩ grants ⟨.consume token, .marking id g tick.now⟩
  | mark (token : String) (id : String) (g row : GaiasEyesGrant) (now : Nat) (usedAt : String) (stage : Stage)
      (hget : grants.get? id = some row) (hactive : row.status = "active")
      (hstage : stage.made = none ∧ stage.found = some (id, g, now)) :
      Effect sha256 tick grants ⟨.consume token, .marking id g now⟩
        (grants.updateWhere (fun key g => key = id && g.status = "active") fun g =>
          { g with status := "used", usedAt := usedAt }) ⟨.consume token, stage⟩

section Effect

variable {cm : CaseMap} {sha256 : String → String} {config : Bootstrap} {tick : Tick} {db : Database}

@[simp] theorem grants_event (e : AbuseCaseEvent) : (attempt tick db (createAbuseCaseEvent db e)).grants = db.grants := by
  unfold attempt createAbuseCaseEvent
  split
  · rfl
  split <;> rfl

theorem effect_checkPackage {call : Call} (hmade : call.stage.made = none) (packageData signature : String) :
    Effect sha256 tick db.grants call db.grants ⟨call.request, checkPackage packageData signature⟩ := by
  unfold checkPackage
  split
  · exact .quiet call _ hmade.symm (.inl rfl)
  split <;> exact .quiet call _ hmade.symm (.inl rfl)

variable {id : String}

@[grind →]
theorem createGrant_some {g : GaiasEyesGrant} {db' : Database} (h : createGrant db id g = some db') :
    db.grants.get? id = none ∧ (∀ r ∈ db.grants.rows, r.2.tokenHash ≠ g.tokenHash) ∧
      db'.grants = db.grants.insertOrIgnore id g := by
  obtain ⟨hfree, h⟩ := Option.ite_none_right_eq_some.1 h
  rw [← Option.some.inj h]
  exact ⟨Option.isNone_iff_eq_none.1 hfree.1, hfree.2, rfl⟩

@[grind →]
theorem markGaiasEyesGrantUsed_some {usedAt : Nat} {db' : Database}
    (h : markGaiasEyesGrantUsed db id usedAt = some db') :
    (∃ row, db.grants.get? id = some row ∧ row.status = "active") ∧
      db'.grants = db.grants.updateWhere (fun key g => key = id && g.status = "active") fun g =>
        { g with status := "used", usedAt := formatTime usedAt } := by
  obtain ⟨hactive, h⟩ := Option.ite_none_right_eq_some.1 h
  rw [Option.any_eq_true] at hactive
  obtain ⟨row, hrow, hstatus⟩ := hactive
  rw [← Option.some.inj h]
  exact ⟨⟨row, hrow, of_decide_eq_true hstatus⟩, rfl⟩

@[grind →]
theorem getGaiasEyesGrantByTokenHash_some {hash : String} {g : GaiasEyesGrant}
    (h : getGaiasEyesGrantByTokenHash db hash = some (id, g)) : db.grants.get? id = some g ∧ g.tokenHash = hash :=
  ⟨Table.get?_eq_some.2 (List.mem_of_find?_eq_some h), by simpa using List.find?_some h⟩

theorem next_effect (call : Call) :
    Effect sha256 tick db.grants call (next cm sha256 config tick db call).1.grants
      (next cm sha256 config tick db call).2 := by
  obtain ⟨request, stage⟩ := call
  cases request with
  | create owner caseID scope packageData signature ttl =>
    simp only [next]
    fun_cases nextCreate <;> dsimp only
    · exact .quiet _ _ rfl (.inl rfl)
    · exact effect_checkPackage rfl packageData signature
    · exact .quiet _ _ rfl (.inl rfl)
    · exact .quiet _ _ rfl (.inl rfl)
    · split
      · exact effect_checkPackage rfl packageData signature
      · exact .quiet _ _ rfl (.inl rfl)
    · exact .quiet _ _ rfl (.inl rfl)
    · rename_i db' hsome
      obtain ⟨hnew, hhash, hgrants⟩ := createGrant_some (Option.ite_none_left_eq_some.1 hsome).2
      rw [hgrants]
      refine .insert ⟨.create owner caseID scope packageData signature ttl, _⟩ ttl _ _ _ rfl rfl hnew hhash rfl ?_
      split <;> exact ⟨rfl, rfl⟩
    · rw [grants_event]
      exact .quiet _ _ rfl (.inl rfl)
    · exact .quiet _ _ rfl (.inr ⟨rfl, rfl⟩)
  | consume token =>
    simp only [next]
    fun_cases nextConsume
    · exact .quiet _ _ rfl (.inl rfl)
    · exact .quiet _ _ rfl (.inl rfl)
    · rename_i id g hsome
      obtain ⟨hget, hhash⟩ := getGaiasEyesGrantByTokenHash_some (Option.ite_none_left_eq_some.1 hsome).2
      fun_cases checkGrant
      · exact .quiet _ _ rfl (.inl rfl)
      · exact .quiet _ _ rfl (.inl rfl)
      · refine .check token id g hget hhash ?_
        rw [GaiasEyesGrant.Current]
        omega
    · exact .quiet _ _ rfl (.inl rfl)
    · rename_i id g now db' hsome
      obtain ⟨⟨row, hrow, hactive⟩, hgrants⟩ := markGaiasEyesGrantUsed_some (Option.ite_none_left_eq_some.1 hsome).2
      rw [hgrants]
      refine .mark token id g row now _ _ hrow hactive ?_
      split <;> exact ⟨rfl, rfl⟩
    · rw [grants_event]
      exact .quiet _ _ rfl (.inr ⟨rfl, rfl⟩)
    · exact .quiet _ _ rfl (.inr ⟨rfl, rfl⟩)

end Effect

/-! ## What a grant keeps -/

/-- A row after a step: its token and its expiry are the same, and what is used stays used. -/
structure Kept (g g' : GaiasEyesGrant) : Prop where
  tokenHash : g'.tokenHash = g.tokenHash
  expiresAt : g'.expiresAt = g.expiresAt
  active : g'.status = "active" → g.status = "active"

theorem Kept.refl (g : GaiasEyesGrant) : Kept g g := ⟨rfl, rfl, id⟩

namespace Effect

variable {sha256 : String → String} {tick : Tick} {grants grants' : Table String GaiasEyesGrant} {call call' : Call}
  (h : Effect sha256 tick grants call grants' call')

include h

theorem request_eq : call'.request = call.request := by
  cases h <;> rfl

theorem made_of_made {made : String × Nat}
    (hmade : call.stage.made = some made) : call'.stage.made = some made := by
  cases h <;> grind [Stage.made]

omit h in
theorem get?_mark (id : String) (usedAt : String) (key : String) (row : GaiasEyesGrant) (hrow : grants.get? key = some row) :
    ∃ row', (grants.updateWhere (fun key g => key = id && g.status = "active") fun g =>
      { g with status := "used", usedAt := usedAt }).get? key = some row' ∧ Kept row row' := by
  rw [Table.get?_updateWhere, hrow, Option.map_some]
  refine ⟨_, rfl, ?_⟩
  grind [Kept]

theorem kept {id : String} {g : GaiasEyesGrant}
    (hg : grants.get? id = some g) : ∃ g', grants'.get? id = some g' ∧ Kept g g' := by
  cases h with
  | quiet | check => exact ⟨g, hg, Kept.refl g⟩
  | insert _ ttl id' new stage httl hnone hnew =>
    refine ⟨g, ?_, Kept.refl g⟩
    rw [Table.get?_insertOrIgnore_free hnew, if_neg, hg]
    rintro rfl
    rw [hnew] at hg
    cases hg
  | mark token id' g' row now usedAt => exact get?_mark id' usedAt id g hg

theorem origin {id : String} {g' : GaiasEyesGrant}
    (hg : grants'.get? id = some g') :
    (∃ g, grants.get? id = some g ∧ Kept g g') ∨
      (∀ r ∈ grants.rows, r.2.tokenHash ≠ g'.tokenHash) ∧ ∃ ttl, call.request.ttl = some ttl ∧
        g'.expiresAt = formatTime (expiry tick.now ttl) ∧ call'.stage.made = some (id, tick.now) := by
  cases h with
  | quiet | check => exact .inl ⟨g', hg, Kept.refl g'⟩
  | insert _ ttl id' new stage httl hnone hnew hhash hexpires hstage =>
    rw [Table.get?_insertOrIgnore_free hnew] at hg
    split at hg
    · rename_i hid
      rw [← Option.some.inj hg, hid]
      exact .inr ⟨hhash, ttl, httl, hexpires, hstage.1⟩
    · exact .inl ⟨g', hg, Kept.refl g'⟩
  | mark token id' g'' row now usedAt =>
    refine .inl ?_
    cases hold : grants.get? id with
    | none =>
      rw [Table.get?_updateWhere, hold] at hg
      cases hg
    | some g =>
      obtain ⟨row', hrow', hkept⟩ := get?_mark id' usedAt id g hold
      exact ⟨g, rfl, Option.some.inj (hg.symm.trans hrow') ▸ hkept⟩

end Effect

/-! ## What holds in every state -/

/-- A grant that a call has found is there under the call's token; it was not expired when it was checked, and once it is
used it is not active. -/
def Call.Checked (sha256 : String → String) (grants : Table String GaiasEyesGrant) (call : Call) : Prop :=
  ∀ id g now, call.stage.found = some (id, g, now) → ∃ token row, call.request = .consume token ∧
    grants.get? id = some row ∧ row.tokenHash = tokenHash sha256 (trimSpace token) ∧ row.expiresAt = g.expiresAt ∧
    g.Current now ∧ (call.stage.used = true → row.status ≠ "active")

/-- The call has used the grant. -/
def Call.Uses (call : Call) (id : String) : Prop :=
  call.stage.used = true ∧ ∃ g now, call.stage.found = some (id, g, now)

/-- The call has made the grant, which ends with its lifetime. -/
def Call.Made (call : Call) (id : String) (expiresAt : String) (createdAt : Nat) (ttl : Int64) : Prop :=
  call.request.ttl = some ttl ∧ call.stage.made = some (id, createdAt) ∧ expiresAt = formatTime (expiry createdAt ttl) ∧
    year (dayOf (expiry createdAt ttl)) ≤ 9999

/-- A token names one grant. -/
def Unique (grants : Table String GaiasEyesGrant) : Prop :=
  ∀ id id' g g', grants.get? id = some g → grants.get? id' = some g' → g.tokenHash = g'.tokenHash → id = id'

structure Inv (sha256 : String → String) (s : System) : Prop where
  unique : Unique s.shared.grants
  made : ∀ id g, s.shared.grants.get? id = some g →
    ∃ k call createdAt ttl, s.calls.get? k = some call ∧ call.Made id g.expiresAt createdAt ttl
  checked : ∀ n call, s.calls.get? n = some call → call.Checked sha256 s.shared.grants
  once : ∀ n m call other id, s.calls.get? n = some call → s.calls.get? m = some other → call.Uses id → other.Uses id →
    n = m

namespace Effect

variable {sha256 : String → String} {tick : Tick} {grants grants' : Table String GaiasEyesGrant} {call call' : Call}
  (h : Effect sha256 tick grants call grants' call')

include h

theorem checked_other {other : Call}
    (hother : other.Checked sha256 grants) : other.Checked sha256 grants' := by
  intro id g now hfound
  obtain ⟨token, row, hrequest, hrow, hhash, hexpires, hcurrent, hused⟩ := hother id g now hfound
  obtain ⟨row', hrow', hkept⟩ := h.kept hrow
  exact ⟨token, row', hrequest, hrow', hkept.tokenHash.trans hhash, hkept.expiresAt.trans hexpires, hcurrent,
    fun hu hactive => hused hu (hkept.active hactive)⟩

theorem checked (hcall : call.Checked sha256 grants) :
    call'.Checked sha256 grants' := by
  cases h with
  | quiet _ stage hmade hfound =>
    intro id g now hnow
    rcases hfound with hnone | ⟨hsame, hused⟩
    · exact absurd (hnone.symm.trans hnow) (by simp)
    · obtain ⟨token, row, hrow⟩ := hcall id g now (hsame ▸ hnow)
      exact ⟨token, row, hused ▸ hrow⟩
  | insert _ ttl id g stage httl hmade hnew hhash hexpires hstage =>
    intro id' g' now hnow
    exact absurd (hstage.2.symm.trans hnow) (by simp)
  | check token id g hget hhash hcurrent =>
    intro id' g' now hnow
    obtain ⟨rfl, rfl, rfl⟩ : id = id' ∧ g = g' ∧ tick.now = now := by simpa [Stage.found] using hnow
    exact ⟨token, g, rfl, hget, hhash, rfl, hcurrent, fun hused => by simp [Stage.used] at hused⟩
  | mark token id g row now usedAt stage hget hactive hstage =>
    intro id' g' now' hnow
    obtain ⟨rfl, rfl, rfl⟩ : id = id' ∧ g = g' ∧ now = now' := by simpa using hstage.2.symm.trans hnow
    obtain ⟨token', row', hrequest, hrow', hhash, hexpires, hcurrent, -⟩ := hcall id g now rfl
    obtain rfl := Option.some.inj (hget.symm.trans hrow')
    have hmarked : (grants.updateWhere (fun key g => key = id && g.status = "active") fun g =>
        { g with status := "used", usedAt := usedAt }).get? id = some { row with status := "used", usedAt := usedAt } := by
      rw [Table.get?_updateWhere, hget, Option.map_some, if_pos (by simp [hactive])]
    exact ⟨token', _, hrequest, hmarked, hhash, hexpires, hcurrent, fun _ h => by simp at h⟩

theorem uses {id : String} (huses : call'.Uses id) :
    call.Uses id ∨ ∃ row, grants.get? id = some row ∧ row.status = "active" := by
  obtain ⟨hused, g, now, hfound⟩ := huses
  cases h with
  | quiet _ stage hmade hsame =>
    grind [Call.Uses]
  | insert _ ttl id' g' stage httl hmade hnew hhash hexpires hstage
  | mark token id' g' row now' usedAt stage hget hactive hstage =>
    grind
  | check => cases hused

theorem made_of {id expiresAt : String} {createdAt : Nat} {ttl : Int64}
    (hmade : call.Made id expiresAt createdAt ttl) : call'.Made id expiresAt createdAt ttl :=
  ⟨h.request_eq ▸ hmade.1, h.made_of_made hmade.2.1, hmade.2.2⟩

end Effect

/-- A grant is made while its expiry can be written down. -/
def Dated (s : System) : Event → Prop
  | .start _ _ => True
  | .advance n tick => ∀ call ∈ s.calls.get? n, ∀ ttl ∈ call.request.ttl, year (dayOf (expiry tick.now ttl)) ≤ 9999

instance (s : System) : ∀ e, Decidable (Dated s e)
  | .start _ _ => .isTrue trivial
  -- written out: the lifetimes of an option are checked, not all that there are
  | .advance n tick => @Option.decidableForallMem _
      (fun call : Call => ∀ ttl ∈ call.request.ttl, year (dayOf (expiry tick.now ttl)) ≤ 9999)
      (fun call => Option.decidableForallMem call.request.ttl) (s.calls.get? n)

section Run

variable {cm : CaseMap} {sha256 : String → String} {config : Bootstrap}

theorem inv_fresh (cases : Table String DisclosureCase) : Inv sha256 (fresh cases) where
  unique _ _ _ _ h := by cases h
  made _ _ h := by cases h
  checked _ _ h := by cases h
  once _ _ _ _ _ h := by cases h

theorem Effect.unique {tick : Tick} {grants grants' : Table String GaiasEyesGrant} {call call' : Call}
    (h : Effect sha256 tick grants call grants' call') (hunique : Unique grants) : Unique grants' := by
  intro id id' g g' hg hg' hhash
  rcases h.origin hg with ⟨old, hold, hkept⟩ | ⟨hnew, -, -, -, hmade⟩
  · rcases h.origin hg' with ⟨old', hold', hkept'⟩ | ⟨hnew', -⟩
    · exact hunique id id' old old' hold hold' (hkept.tokenHash.symm.trans (hhash.trans hkept'.tokenHash))
    · exact absurd (hkept.tokenHash.symm.trans hhash) (hnew' _ (Table.get?_eq_some.1 hold))
  · rcases h.origin hg' with ⟨old', hold', hkept'⟩ | ⟨-, -, -, -, hmade'⟩
    · exact absurd (hkept'.tokenHash.symm.trans hhash.symm) (hnew _ (Table.get?_eq_some.1 hold'))
    · exact congrArg Prod.fst (Option.some.inj (hmade.symm.trans hmade'))

variable {s : System}

theorem made_step {e : Event} (hs : Inv sha256 s) (hdated : Dated s e) (id : String) (g : GaiasEyesGrant)
    (hg : (step cm sha256 config s e).shared.grants.get? id = some g) :
    ∃ k call createdAt ttl, (step cm sha256 config s e).calls.get? k = some call ∧
      call.Made id g.expiresAt createdAt ttl := by
  cases e with
  | start n request =>
    obtain ⟨k, call, createdAt, ttl, hcall, hmade⟩ := hs.made id g hg
    exact ⟨k, call, createdAt, ttl, Pool.get?_start_of_some request hcall, hmade⟩
  | advance n tick =>
    cases hcall : s.calls.get? n with
    | none =>
      grind [step, Pool.step_idle, hs.made]
    | some call =>
      rw [step, Pool.step_advance hcall] at hg ⊢
      have heffect : Effect sha256 tick s.shared.grants call (next cm sha256 config tick s.shared call).1.grants
          (next cm sha256 config tick s.shared call).2 := next_effect call
      rcases heffect.origin hg with ⟨old, hold, hkept⟩ | ⟨-, ttl, httl, hexpires, hmade⟩
      · obtain ⟨k, maker, createdAt, ttl, hmaker, hmade⟩ := hs.made id old hold
        rw [hkept.expiresAt]
        by_cases hk : k = n
        · subst hk
          obtain rfl := Option.some.inj (hcall.symm.trans hmaker)
          exact ⟨k, _, createdAt, ttl, by simp, heffect.made_of hmade⟩
        · exact ⟨k, maker, createdAt, ttl, by simp [hk, hmaker], hmade⟩
      · exact ⟨n, _, tick.now, ttl, by simp, heffect.request_eq ▸ httl, hmade, hexpires, hdated call hcall ttl httl⟩

theorem inv_step {e : Event} (hs : Inv sha256 s) (hdated : Dated s e) : Inv sha256 (step cm sha256 config s e) := by
  obtain ⟨hunique, hchecked⟩ : Unique (step cm sha256 config s e).shared.grants ∧
      ∀ n call, (step cm sha256 config s e).calls.get? n = some call →
        call.Checked sha256 (step cm sha256 config s e).shared.grants := by
    refine Pool.invariant_step (I := fun db : Database => Unique db.grants)
      (G := fun _ db call => call.Checked sha256 db.grants) ?_ ?_ hs.unique hs.checked
    · intro n request he hfree id g now hfound
      cases hfound
    · intro n tick call he hcall hgood
      exact ⟨(next_effect call).unique hs.unique, (next_effect call).checked hgood,
        fun m other hm hother hgood' => (next_effect call).checked_other hgood'⟩
  refine ⟨hunique, made_step hs hdated, hchecked, Pool.distinct_step ?_ ?_ hs.once⟩
  · rintro n request - id ⟨hused, -⟩
    cases hused
  · intro n tick call he hcall id huses
    rcases (next_effect call).uses huses with hold | ⟨row, hrow, hactive⟩
    · exact .inl hold
    · -- who has used the grant has left it inactive
      refine .inr fun m other hm hother hother' => ?_
      obtain ⟨hused, g, now, hfound⟩ := hother'
      obtain ⟨token, row', -, hrow', -, -, -, hinactive⟩ := hs.checked m other hother id g now hfound
      obtain rfl := Option.some.inj (hrow.symm.trans hrow')
      exact hinactive hused hactive

theorem inv_run {cases : Table String DisclosureCase} {es : List Event}
    (h : Along (step cm sha256 config) Dated (fresh cases) es) : Inv sha256 (exec (step cm sha256 config) (fresh cases) es) :=
  h.invariant (fun _ _ => inv_step) (inv_fresh cases)

theorem Inv.in_time (hs : Inv sha256 s) {n : Nat} {token id : String} {g : GaiasEyesGrant} {now : Nat}
    (h : s.calls.get? n = some ⟨.consume token, .consumed id g now⟩) :
    ∃ k call createdAt ttl, s.calls.get? k = some call ∧ call.request.ttl = some ttl ∧
      call.stage.made = some (id, createdAt) ∧ (now : Int) ≤ createdAt + lifetime ttl := by
  obtain ⟨token', row, -, hrow, -, hexpires, hcurrent, -⟩ := hs.checked n _ h id g now rfl
  obtain ⟨k, call, createdAt, ttl, hcall, httl, hmade, hexpiry, hyear⟩ := hs.made id row hrow
  refine ⟨k, call, createdAt, ttl, hcall, httl, hmade, ?_⟩
  have hparsed : parseTime g.expiresAt = expiry createdAt ttl := by
    grind [parseTime_formatTime]
  have hle := expiry_le createdAt ttl
  grind [expiry_pos, GaiasEyesGrant.Current]

theorem Inv.one_use (hs : Inv sha256 s) {n m : Nat} {token token' id id' : String} {g g' : GaiasEyesGrant}
    {now now' : Nat} (h : s.calls.get? n = some ⟨.consume token, .consumed id g now⟩)
    (h' : s.calls.get? m = some ⟨.consume token', .consumed id' g' now'⟩) (htoken : trimSpace token = trimSpace token') :
    n = m := by
  obtain ⟨_, row, hrequest, hrow, hhash, -⟩ := hs.checked n _ h id g now rfl
  obtain ⟨_, row', hrequest', hrow', hhash', -⟩ := hs.checked m _ h' id' g' now' rfl
  obtain rfl := Request.consume.inj hrequest
  obtain rfl := Request.consume.inj hrequest'
  obtain rfl := hs.unique id id' row row' hrow hrow' (hhash.trans (htoken ▸ hhash'.symm))
  exact hs.once n m _ _ id h h' ⟨rfl, g, now, rfl⟩ ⟨rfl, g', now', rfl⟩

/-- A grant ends when its lifetime is over exactly if the number of seconds does not wrap around to less than a day. In
every run at most one call with a token gets the package, and none after the lifetime. -/
theorem grants_used_once (cm : CaseMap) (sha256 : String → String) (config : Bootstrap)
    (cases : Table String DisclosureCase) (es : List Event)
    (h : Along (step cm sha256 config) Dated (fresh cases) es) :
    (∀ now ttl, (expiry now ttl : Int) = now + lifetime ttl ↔
      ttl.toInt ≤ 86400 ∨ 24 * 3600 * 1000000000 ≤ (ttl * 1000000000).toInt) ∧
    (∀ id g, (exec (step cm sha256 config) (fresh cases) es).shared.grants.get? id = some g →
      ∃ k call createdAt ttl, (exec (step cm sha256 config) (fresh cases) es).calls.get? k = some call ∧
        call.request.ttl = some ttl ∧ call.stage.made = some (id, createdAt) ∧
        parseTime g.expiresAt = expiry createdAt ttl) ∧
    (∀ n m token token' id id' g g' now now',
      (exec (step cm sha256 config) (fresh cases) es).calls.get? n = some ⟨.consume token, .consumed id g now⟩ →
      (exec (step cm sha256 config) (fresh cases) es).calls.get? m = some ⟨.consume token', .consumed id' g' now'⟩ →
      trimSpace token = trimSpace token' → n = m) ∧
    ∀ n token id g now,
      (exec (step cm sha256 config) (fresh cases) es).calls.get? n = some ⟨.consume token, .consumed id g now⟩ →
      ∃ k call createdAt ttl, (exec (step cm sha256 config) (fresh cases) es).calls.get? k = some call ∧
        call.request.ttl = some ttl ∧ call.stage.made = some (id, createdAt) ∧ (now : Int) ≤ createdAt + lifetime ttl := by
  have hinv := inv_run h
  refine ⟨fun now ttl => ?_, fun id g hg => ?_, fun _ _ _ _ _ _ _ _ _ _ h h' => hinv.one_use h h',
    fun _ _ _ _ _ h => hinv.in_time h⟩
  · grind [normalizeDisclosureTTL_eq_iff, expiry, lifetime]
  · obtain ⟨k, call, createdAt, ttl, hcall, httl, hmade, hexpires,
      hyear⟩ := hinv.made id g hg <;> grind [parseTime_formatTime]

end Run

/-! ## A grant and two readers -/

def sampleTick (seconds : Nat) : Tick :=
  ⟨63919886400000000000 + seconds * 1000000000, .ofByte 7, "token", false, ⟨some [], fun _ => .none⟩⟩

def sampleCreate (ttl : Int64) : List Event :=
  [.start 1 (.create "@anna:node.example.org" "" "case" "\x7b\x7d" "" ttl), .advance 1 (sampleTick 0),
    .advance 1 (sampleTick 0)]

def sampleReaders (seconds : Nat) : List Event :=
  [.start 2 (.consume "token"), .start 3 (.consume " token"), .advance 2 (sampleTick seconds),
    .advance 3 (sampleTick seconds), .advance 3 (sampleTick seconds), .advance 2 (sampleTick seconds)]

def sampleRun (es : List Event) : System := exec (step .plain id ⟨"", []⟩) (fresh .empty) es

/-- One of the readers gets the package of a grant for an hour. -/
theorem one_reader_of_two :
    ((sampleRun (sampleCreate 3600 ++ sampleReaders 3599)).calls.get? 3).any (fun call => call.stage.used) = true ∧
      ((sampleRun (sampleCreate 3600 ++ sampleReaders 3599)).calls.get? 2).any (fun call =>
        call.stage = .failed .tokenUsed) = true ∧
      (expiry 0 3600 : Int) = 0 + lifetime 3600 := by
  refine ⟨by decide +kernel, by decide +kernel, ?_⟩
  exact ((grants_used_once .plain id ⟨"", []⟩ .empty (sampleCreate 3600 ++ sampleReaders 3599) (by decide +kernel)).1
    0 3600).2 (.inl (by decide))

/-- A grant for 292 years and a second, which would be cut to a day, ends after a minute. -/
theorem long_grant_ends_early :
    lifetime 9223372037 = 24 * 3600 * 1000000000 ∧ (normalizeDisclosureTTL 9223372037).toInt = 60 * 1000000000 ∧
      ((sampleRun (sampleCreate 9223372037 ++ sampleReaders 61)).calls.get? 2).map (fun call => call.stage) =
        some (.failed .tokenExpired) := by
  refine ⟨by decide, by decide, by decide +kernel⟩

end GaiaCom.Governance.Grants
