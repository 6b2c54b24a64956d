/-
auth_service.go `RegisterUser` and identity_service.go `CreateIdentity`: each reads how many rows there are and inserts one
with a later statement. GaiaIDs are stored in lower case, where the unique column catches what the count has missed; names of
users and the limit of two identities rest on the count alone, so they hold as long as no other call of the same name or user
is between its count and its insertion. The welcome message of a new identity is left out.
-/
import GaiaCom.Governance.Roles
import GaiaCom.Core.Uuid
import GaiaCom.Lib.Pool

namespace GaiaCom.Auth.Names

open Lib Core

/-! ## Tables -/

/-- A row of users. -/
structure User where
  username : String
  passwordHash : String
  publicKey : String
  deriving DecidableEq

/-- A row of identities. -/
structure Identity where
  userID : UUID
  gaiaID : String
  displayName : String
  publicRecord : String
  deriving DecidableEq

structure Database where
  users : Table UUID User
  identities : Table UUID Identity

section Statements

variable (db : Database)

/-- `LOWER` of SQLite changes ASCII letters. -/
def countUsersByUsername (username : String) : Nat :=
  db.users.countWhere fun _ u => toLower u.username = toLower username

/-- `CreateUser`: the name is unique as it is spelled. -/
def createUser (id : UUID) (user : User) : Option Database :=
  if (db.users.get? id).isSome ∨ db.users.rows.any (fun r => r.2.username = user.username) then none
  else some { db with users := db.users.insertOrIgnore id user }

/-- `FindIdentitiesByUserID`, of which only the number is read. -/
def countIdentitiesByUserID (userID : UUID) : Nat := db.identities.countWhere fun _ i => i.userID = userID

def countIdentitiesByGaiaID (gaiaID : String) : Nat :=
  db.identities.countWhere fun _ i => toLower i.gaiaID = toLower gaiaID

/-- `CreateIdentity` of the store: the GaiaID is unique as it is spelled, and the user exists. -/
def createIdentity (id : UUID) (identity : Identity) : Option Database :=
  if (db.identities.get? id).isSome ∨ db.identities.rows.any (fun r => r.2.gaiaID = identity.gaiaID) ∨
      (db.users.get? identity.userID).isNone then none
  else some { db with identities := db.identities.insertOrIgnore id identity }

end Statements

/-! ## Calls -/

/-- What the world provides for one step: an id that is drawn, the hash of the password, and whether the statement
fails. -/
structure Tick where
  id : UUID
  hash : Option String
  fails : Bool

/-- A call with its arguments; the public record is the text that it is stored as. -/
inductive Request where
  | registerUser (username password publicKey : String)
  | createIdentity (userID : UUID) (gaiaID displayName publicRecord : String)
  deriving DecidableEq

inductive NameError where
  | username | password | usernameTaken | user | gaiaID | publicRecord | keyset | limit | gaiaIDTaken | hash | database
  deriving DecidableEq

/-- How far a call is. -/
inductive Stage where
  | started
  /-- Register: nobody has the name, the user is to be inserted. -/
  | free
  /-- Create: the user has less than two identities, the GaiaID is next. -/
  | below
  /-- Create: nobody has the GaiaID, the identity is to be inserted. -/
  | unclaimed
  | succeeded (id : UUID)
  | failed (err : NameError)
  deriving DecidableEq

/-- A call and how far it is. -/
structure Call where
  request : Request
  stage : Stage
  deriving DecidableEq

def Call.begin (request : Request) : Call := ⟨request, .started⟩

section Steps

variable (cm : CaseMap) (validKeyset : String → Bool) (tick : Tick) (db : Database)

def execute (statement : Option Database) : Database × Stage :=
  match if tick.fails then none else statement with
  | none => (db, .failed .database)
  | some db' => (db', .succeeded tick.id)

/-- `RegisterUser`. -/
def nextRegister (username password publicKey : String) : Stage → Database × Stage
  | .started =>
    let username := trimSpace username
    (db,
      if len username < 3 ∨ 64 < len username then .failed .username
      else if len password < 12 ∨ 512 < len password then .failed .password
      else if tick.fails then .failed .database
      else if 0 < countUsersByUsername db username then .failed .usernameTaken
      else .free)
  | .free =>
    match tick.hash with
    | none => (db, .failed .hash)
    | some passwordHash => execute tick db (createUser db tick.id ⟨trimSpace username, passwordHash, publicKey⟩)
  | stage => (db, stage)

/-- `CreateIdentity`; `validKeyset` is `validateSovereignKeyset`. -/
def nextCreate (userID : UUID) (gaiaID displayName publicRecord : String) : Stage → Database × Stage
  | .started =>
    (db,
      if userID = .nil then .failed .user
      else if (Core.gaiaID gaiaID).toOption = none then .failed .gaiaID
      else if publicRecord = "" then .failed .publicRecord
      else if !validKeyset publicRecord then .failed .keyset
      else if tick.fails then .failed .database
      else if 2 ≤ countIdentitiesByUserID db userID then .failed .limit
      else .below)
  | .below =>
    (db,
      if tick.fails then .failed .database
      else if 0 < countIdentitiesByGaiaID db gaiaID then .failed .gaiaIDTaken
      else .unclaimed)
  | .unclaimed =>
    execute tick db (createIdentity db tick.id
      ⟨userID, String.ofList (Governance.lowered cm gaiaID.toList), displayName, publicRecord⟩)
  | stage => (db, stage)

def next (call : Call) : Database × Call :=
  let (db', stage) := match call.request with
    | .registerUser username password publicKey => nextRegister tick db username password publicKey call.stage
    | .createIdentity userID gaiaID displayName publicRecord =>
      nextCreate cm validKeyset tick db userID gaiaID displayName publicRecord call.stage
  (db', ⟨call.request, stage⟩)

end Steps

/-- The tables and all calls. -/
abbrev System := Pool Database Call

abbrev Event := Pool.Event Request Tick

def step (cm : CaseMap) (validKeyset : String → Bool) (s : System) (e : Event) : System :=
  Pool.step Call.begin (next cm validKeyset) s e

def fresh (db : Database) : System := ⟨db, .empty⟩

/-! ## Uniqueness -/

/-- No two users have the same name up to case. -/
def UniqueNames (db : Database) : Prop :=
  ∀ id id' u u', db.users.get? id = some u → db.users.get? id' = some u' → toLower u.username = toLower u'.username →
    id = id'

/-- No two identities have the same GaiaID up to case. -/
def UniqueGaiaIDs (db : Database) : Prop :=
  ∀ id id' i i', db.identities.get? id = some i → db.identities.get? id' = some i' →
    toLower i.gaiaID = toLower i'.gaiaID → id = id'

/-- GaiaIDs are in lower case. -/
def LowerCase (db : Database) : Prop := ∀ id i, db.identities.get? id = some i → toLower i.gaiaID = i.gaiaID

/-- No user has more than two identities. -/
def AtMostTwo (db : Database) : Prop := ∀ userID, countIdentitiesByUserID db userID ≤ 2

/-! ## Between the count and the insertion -/

/-- What a call has counted. -/
inductive Key where
  | name (username : String)
  | owner (userID : UUID)
  deriving DecidableEq

/-- The name up to case or the user that the call has counted and is about to insert a row for. -/
def Call.key (call : Call) : Option Key :=
  match call.request, call.stage with
  | .registerUser username _ _, .free => some (.name (toLower (trimSpace username)))
  | .createIdentity userID _ _ _, .below | .createIdentity userID _ _ _, .unclaimed => some (.owner userID)
  | _, _ => none

/-- There is room for one more row. -/
def Key.Free (db : Database) : Key → Prop
  | .name username => ∀ id u, db.users.get? id = some u → toLower u.username ≠ username
  | .owner userID => countIdentitiesByUserID db userID ≤ 1

/-- A call that begins to count finds no other call of the same name or user between its count and its insertion. -/
def Exclusive (cm : CaseMap) (validKeyset : String → Bool) (s : System) : Event → Prop
  | .start _ _ => True
  | .advance n tick => ∀ call ∈ s.calls.get? n, ∀ key ∈ (next cm validKeyset tick s.shared call).2.key,
      call.key = some key ∨ ∀ row ∈ s.calls.rows, row.1 ≠ n → row.2.key ≠ some key

instance (cm : CaseMap) (validKeyset : String → Bool) (s : System) : ∀ e, Decidable (Exclusive cm validKeyset s e)
  | .start _ _ => .isTrue trivial
  | .advance n tick => inferInstanceAs (Decidable (∀ call ∈ s.calls.get? n,
      ∀ key ∈ (next cm validKeyset tick s.shared call).2.key,
        call.key = some key ∨ ∀ row ∈ s.calls.rows, row.1 ≠ n → row.2.key ≠ some key))

/-! ## What a step does -/

/-- An identity is inserted for a GaiaID that was checked. -/
def Call.Valid (call : Call) : Prop :=
  ∀ userID gaiaID displayName publicRecord, call.request = .createIdentity userID gaiaID displayName publicRecord →
    call.key ≠ none → Core.gaiaID gaiaID = .ok ()

/-- A step changes nothing, inserts a user under the name that the call holds, or an identity of the user that it
holds. -/
inductive Effect (id : UUID) (db : Database) (call : Call) : Database → Call → Prop
  | quiet (stage : Stage) (hkey : ∀ key ∈ (Call.mk call.request stage).key, call.key = some key ∨ key.Free db)
      (hvalid : call.Valid → (Call.mk call.request stage).Valid) : Effect id db call db ⟨call.request, stage⟩
  | insertUser (user : User) (hid : db.users.get? id = none) (hkey : call.key = some (.name (toLower user.username))) :
      Effect id db call { db with users := db.users.insertOrIgnore id user } ⟨call.request, .succeeded id⟩
  | insertIdentity (identity : Identity) (hid : db.identities.get? id = none)
      (hnew : ∀ id' i, db.identities.get? id' = some i → i.gaiaID ≠ identity.gaiaID)
      (hkey : call.key = some (.owner identity.userID)) (hlower : call.Valid → toLower identity.gaiaID = identity.gaiaID) :
      Effect id db call { db with identities := db.identities.insertOrIgnore id identity } ⟨call.request, .succeeded id⟩

section Effects

variable {cm : CaseMap} {validKeyset : String → Bool} {tick : Tick} {db : Database}

theorem execute_cases (tick : Tick) (db : Database) (statement : Option Database) :
    execute tick db statement = (db, .failed .database) ∨
      ∃ db', statement = some db' ∧ execute tick db statement = (db', .succeeded tick.id) := by
  unfold execute
  cases htick : tick.fails with
  | true => exact .inl rfl
  | false =>
    cases statement with
    | none => exact .inl rfl
    | some db' => exact .inr ⟨db', rfl, rfl⟩

variable {id : UUID}

@[grind →]
theorem createUser_some {user : User} {db' : Database} (h : createUser db id user = some db') :
    db.users.get? id = none ∧ db' = { db with users := db.users.insertOrIgnore id user } := by
  obtain ⟨hfree, hdb⟩ := Option.ite_none_left_eq_some.1 h
  rw [not_or] at hfree
  exact ⟨by simpa using hfree.1, (Option.some.inj hdb).symm⟩

@[grind →]
theorem createIdentity_some {identity : Identity} {db' : Database} (h : createIdentity db id identity = some db') :
    db.identities.get? id = none ∧ (∀ id' i, db.identities.get? id' = some i → i.gaiaID ≠ identity.gaiaID) ∧
      db' = { db with identities := db.identities.insertOrIgnore id identity } := by
  obtain ⟨hfree, hdb⟩ := Option.ite_none_left_eq_some.1 h
  rw [not_or, not_or] at hfree
  obtain ⟨hid, hnew, -⟩ := hfree
  refine ⟨by simpa using hid, fun id' i hi heq => hnew ?_, (Option.some.inj hdb).symm⟩
  grind

theorem toLower_lowered {value : String} (h : Core.gaiaID value = .ok ()) :
    toLower (String.ofList (Governance.lowered cm value.toList)) = String.ofList (Governance.lowered cm value.toList) := by
  obtain ⟨n, hn⟩ := Governance.spelled_of_gaiaID h
  rw [(hn.map_lower cm).1]
  exact toLower_toLower value

theorem Effect.of_key_none {request : Request} (before : Stage) {stage : Stage}
    (h : (Call.mk request stage).key = none) : Effect id db ⟨request, before⟩ db ⟨request, stage⟩ := by
  refine .quiet stage (fun key hkey => ?_) fun _ _ _ _ _ _ hne => absurd h hne
  rw [h] at hkey
  cases hkey

theorem Effect.same (call : Call) : Effect id db call db call :=
  .quiet call.stage (fun _ hkey => .inl hkey) fun hvalid => hvalid

theorem free_name {username : String} (h : ¬ 0 < countUsersByUsername db username) :
    (Key.name (toLower username)).Free db := by
  intro id u hu heq
  refine h (List.countP_pos_iff.2 ⟨(id, u), Table.get?_eq_some.1 hu, ?_⟩)
  simpa using heq

theorem effect_register (username password publicKey : String) (stage : Stage) :
    Effect tick.id db ⟨.registerUser username password publicKey, stage⟩
      (nextRegister tick db username password publicKey stage).1
      ⟨.registerUser username password publicKey, (nextRegister tick db username password publicKey stage).2⟩ := by
  have hvalid : ∀ stage', (Call.mk (.registerUser username password publicKey) stage').Valid :=
    fun _ _ _ _ _ heq => by cases heq
  cases stage with
  | started =>
    simp only [nextRegister]
    split_ifs with hname hpassword hfails htaken
    iterate 4 exact Effect.of_key_none .started rfl
    refine .quiet .free (fun key hkey => .inr ?_) fun _ => hvalid _
    cases hkey
    exact free_name htaken
  | free =>
    simp only [nextRegister]
    split
    · exact Effect.of_key_none .free rfl
    rename_i passwordHash hhash
    rcases execute_cases tick db
      (createUser db tick.id ⟨trimSpace username, passwordHash, publicKey⟩) with heq | ⟨db', hdb, heq⟩
    · rw [heq]
      exact Effect.of_key_none .free rfl
    · rw [heq]
      obtain ⟨hid, rfl⟩ := createUser_some hdb
      exact .insertUser _ hid rfl
  | below | unclaimed | succeeded | failed => exact Effect.same _

theorem effect_create (userID : UUID) (gaiaID displayName publicRecord : String) (stage : Stage) :
    Effect tick.id db ⟨.createIdentity userID gaiaID displayName publicRecord, stage⟩
      (nextCreate cm validKeyset tick db userID gaiaID displayName publicRecord stage).1
      ⟨.createIdentity userID gaiaID displayName publicRecord,
        (nextCreate cm validKeyset tick db userID gaiaID displayName publicRecord stage).2⟩ := by
  cases stage with
  | started =>
    simp only [nextCreate]
    split_ifs with huser hgaiaID hrecord hkeyset hfails hlimit
    iterate 6 exact Effect.of_key_none .started rfl
    refine .quiet .below (fun key hkey => .inr ?_) fun _ => ?_
    · cases hkey <;> grind [Key.Free]
    · intro userID' gaiaID' displayName' publicRecord' heq _
      cases heq
      cases hok : Core.gaiaID gaiaID with
      | ok _ => rfl
      | error _ => exact absurd (by rw [hok]; rfl) hgaiaID
  | below =>
    simp only [nextCreate]
    split_ifs with hfails htaken
    iterate 2 exact Effect.of_key_none .below rfl
    refine .quiet .unclaimed (fun key hkey => .inl hkey) fun hvalid => ?_
    exact fun _ _ _ _ heq _ => hvalid _ _ _ _ heq (Option.some_ne_none _)
  | unclaimed =>
    simp only [nextCreate]
    rcases execute_cases tick db (createIdentity db tick.id
      ⟨userID, String.ofList (Governance.lowered cm gaiaID.toList), displayName, publicRecord⟩) with heq | ⟨db', hdb, heq⟩
    · rw [heq]
      exact Effect.of_key_none .unclaimed rfl
    · rw [heq]
      obtain ⟨hid, hnew, rfl⟩ := createIdentity_some hdb
      exact .insertIdentity _ hid hnew rfl fun hvalid =>
        toLower_lowered (hvalid _ _ _ _ rfl (Option.some_ne_none _))
  | free | succeeded | failed => exact Effect.same _

theorem effect_next (cm : CaseMap) (validKeyset : String → Bool) (tick : Tick) (db : Database) (call : Call) :
    Effect tick.id db call (next cm validKeyset tick db call).1 (next cm validKeyset tick db call).2 := by
  obtain ⟨request, stage⟩ := call
  grind [effect_register, effect_create, next]

end Effects

namespace Effect

variable {id : UUID} {db db' : Database} {call call' : Call}

theorem gaiaIDs (h : Effect id db call db' call') (hvalid : call.Valid) (hlower : LowerCase db) (hunique : UniqueGaiaIDs db) :
    call'.Valid ∧ LowerCase db' ∧ UniqueGaiaIDs db' := by
  have hdone : ∀ request, (Call.mk request (.succeeded id)).Valid := by
    intro request _ _ _ _ _ hne
    cases request <;> exact absurd rfl hne
  cases h with
  | quiet stage _ hkept => exact ⟨hkept hvalid, hlower, hunique⟩
  | insertUser user hid hkey => exact ⟨hdone _, hlower, hunique⟩
  | insertIdentity identity hid hnew hkey hown =>
    have hother : ∀ id' i, db.identities.get? id' = some i → toLower i.gaiaID ≠ toLower identity.gaiaID := by
      intro id' i hi heq
      rw [hlower id' i hi, hown hvalid] at heq
      exact hnew id' i hi heq
    refine ⟨hdone _, fun a i ha => ?_, fun a b i j ha hb heq => ?_⟩
    · rw [Table.get?_insertOrIgnore_free hid] at ha
      split at ha
      · rw [← Option.some.inj ha]
        exact hown hvalid
      · exact hlower a i ha
    · rw [Table.get?_insertOrIgnore_free hid] at ha hb
      split at ha <;> split at hb
      · rename_i ha' hb'
        rw [ha', hb']
      · grind
      · grind
      · exact hunique a b i j ha hb heq

theorem names (h : Effect id db call db' call') (hfree : ∀ key ∈ call.key, key.Free db) (hunique : UniqueNames db) :
    UniqueNames db' := by
  cases h with
  | quiet stage hkey hkept | insertIdentity identity hid hnew hkey hown => exact hunique
  | insertUser user hid hkey =>
    have hother : ∀ id' u, db.users.get? id' = some u → toLower u.username ≠ toLower user.username := hfree _ hkey
    intro a b u v ha hb heq
    rw [Table.get?_insertOrIgnore_free hid] at ha hb
    split at ha <;> split at hb
    · rename_i ha' hb'
      rw [ha', hb']
    · grind
    · grind
    · exact hunique a b u v ha hb heq

theorem countIdentities_insert {identity : Identity} (hid : db.identities.get? id = none) (userID : UUID) :
    countIdentitiesByUserID { db with identities := db.identities.insertOrIgnore id identity } userID =
      countIdentitiesByUserID db userID + if identity.userID = userID then 1 else 0 := by
  grind [countIdentitiesByUserID, Table.countWhere_insertOrIgnore]

theorem limit (h : Effect id db call db' call') (hfree : ∀ key ∈ call.key, key.Free db) (hlimit : AtMostTwo db) :
    AtMostTwo db' := by
  cases h with
  | quiet stage hkey hkept | insertUser user hid hkey => exact hlimit
  | insertIdentity identity hid hnew hkey hown =>
    have hroom : countIdentitiesByUserID db identity.userID ≤ 1 := hfree _ hkey
    intro userID
    rw [countIdentities_insert hid]
    have hle := hlimit userID
    grind

theorem free_of_ne (h : Effect id db call db' call') {key : Key} (hne : call.key ≠ some key) (hfree : key.Free db) :
    key.Free db' := by
  cases h with
  | quiet stage hkey hkept => exact hfree
  | insertUser user hid hkey =>
    cases key with
    | owner userID => exact hfree
    | name username =>
      intro a u ha heq
      rw [Table.get?_insertOrIgnore_free hid] at ha
      split at ha
      · rw [← Option.some.inj ha] at heq
        exact hne (hkey.trans (by rw [heq]))
      · exact hfree a u ha heq
  | insertIdentity identity hid hnew hkey hown =>
    cases key with
    | name username => exact hfree
    | owner userID =>
      have hother : identity.userID ≠ userID := fun heq => hne (hkey.trans (by rw [heq]))
      show countIdentitiesByUserID _ userID ≤ 1
      rw [countIdentities_insert hid, if_neg hother]
      exact hfree

theorem free_self (h : Effect id db call db' call') (hfree : ∀ key ∈ call.key, key.Free db) :
    ∀ key ∈ call'.key, key.Free db' := by
  have hdone : ∀ request, (Call.mk request (.succeeded id)).key = none := fun request => by cases request <;> rfl
  cases h <;> grind

end Effect

/-! ## Runs -/

/-- What holds of the tables and of every call, whatever the interleaving. -/
structure Checked (s : System) : Prop where
  lower : LowerCase s.shared
  unique : UniqueGaiaIDs s.shared
  valid : ∀ n call, s.calls.get? n = some call → call.Valid

/-- What the exclusive steps keep: no two calls hold the same, and there is room for what they hold. -/
structure Inv (s : System) : Prop where
  names : UniqueNames s.shared
  limit : AtMostTwo s.shared
  free : ∀ n call, s.calls.get? n = some call → ∀ key ∈ call.key, key.Free s.shared
  distinct : ∀ n m call other key, s.calls.get? n = some call → s.calls.get? m = some other → call.key = some key →
    other.key = some key → n = m

theorem begin_key (request : Request) : (Call.begin request).key = none := by cases request <;> rfl

section Runs

variable {cm : CaseMap} {validKeyset : String → Bool}

theorem checked_step (s : System) (e : Event) (hs : Checked s) : Checked (step cm validKeyset s e) := by
  obtain ⟨⟨hlower, hunique⟩, hvalid⟩ :
      (LowerCase (step cm validKeyset s e).shared ∧ UniqueGaiaIDs (step cm validKeyset s e).shared) ∧
        ∀ n call, (step cm validKeyset s e).calls.get? n = some call → call.Valid := by
    refine Pool.invariant_step (I := fun db => LowerCase db ∧ UniqueGaiaIDs db) (G := fun _ _ call => call.Valid) ?_ ?_
      ⟨hs.lower, hs.unique⟩ hs.valid
    · grind [begin_key, Call.Valid]
    · intro n tick call _ _ hvalid
      obtain ⟨hvalid', htables⟩ := (effect_next cm validKeyset tick s.shared call).gaiaIDs hvalid hs.lower hs.unique
      exact ⟨htables, hvalid', fun _ _ _ _ h => h⟩
  exact ⟨hlower, hunique, hvalid⟩

theorem distinct_step {s : System} {e : Event} (hs : Inv s) (he : Exclusive cm validKeyset s e) :
    ∀ n m call other key, (step cm validKeyset s e).calls.get? n = some call →
      (step cm validKeyset s e).calls.get? m = some other → call.key = some key → other.key = some key → n = m := by
  refine Pool.distinct_step (K := fun (call : Call) key => call.key = some key) ?_ ?_ hs.distinct
  · grind [begin_key]
  · rintro n tick call rfl hcall key hkey
    rcases he call hcall key hkey with hold | hnone <;> grind

theorem inv_step {s : System} {e : Event} (hs : Inv s) (he : Exclusive cm validKeyset s e) :
    Inv (step cm validKeyset s e) := by
  obtain ⟨⟨hnames, hlimit⟩, hfree⟩ :
      (UniqueNames (step cm validKeyset s e).shared ∧ AtMostTwo (step cm validKeyset s e).shared) ∧
        ∀ n call, (step cm validKeyset s e).calls.get? n = some call →
          ∀ key ∈ call.key, key.Free (step cm validKeyset s e).shared := by
    refine Pool.invariant_step (I := fun db => UniqueNames db ∧ AtMostTwo db)
      (G := fun _ db (call : Call) => ∀ key ∈ call.key, key.Free db) ?_ ?_ ⟨hs.names, hs.limit⟩ hs.free
    · grind [Call.key, Call.begin]
    · intro n tick call _ hcall hfree
      have heffect := effect_next cm validKeyset tick s.shared call
      refine ⟨⟨heffect.names hfree hs.names, heffect.limit hfree hs.limit⟩, heffect.free_self hfree, ?_⟩
      intro m other hm hother hfree' key hkey
      exact heffect.free_of_ne (fun hheld => hm (hs.distinct m n other call key hother hcall hkey hheld)) (hfree' key hkey)
  exact ⟨hnames, hlimit, hfree, distinct_step hs he⟩

/-- GaiaIDs are unique up to case in every run. Names up to case and the limit of two identities are kept by every run in
which no call begins to count while another of the same name or user is between its count and its insertion. -/
theorem names_unique (cm : CaseMap) (validKeyset : String → Bool) (db : Database) (es : List Event) (hlower : LowerCase db)
    (hgaiaIDs : UniqueGaiaIDs db) (hnames : UniqueNames db) (hlimit : AtMostTwo db) :
    UniqueGaiaIDs (exec (step cm validKeyset) (fresh db) es).shared ∧
      (Along (step cm validKeyset) (Exclusive cm validKeyset) (fresh db) es →
        UniqueNames (exec (step cm validKeyset) (fresh db) es).shared ∧
          AtMostTwo (exec (step cm validKeyset) (fresh db) es).shared) := by
  have hchecked : Checked (fresh db) := ⟨hlower, hgaiaIDs, fun _ _ h => by cases h⟩
  have hinv : Inv (fresh db) := ⟨hnames, hlimit, fun _ _ h => (by cases h), fun _ _ _ _ _ h => (by cases h)⟩
  refine ⟨(exec_invariant checked_step es hchecked).unique, fun hrun => ?_⟩
  have hend : Inv (exec (step cm validKeyset) (fresh db) es) :=
    hrun.invariant (P := Inv) (fun _ _ hs he => inv_step hs he) hinv
  exact ⟨hend.names, hend.limit⟩

end Runs

def sampleEmpty : Database := ⟨.empty, .empty⟩

def sampleTick (id : UInt8) : Tick := ⟨.ofByte id, some "h", false⟩

def sampleRegister (username : String) : Request := .registerUser username (String.ofList (List.replicate 12 'p')) "k"

def sampleIdentity (gaiaID : String) : Request := .createIdentity (.ofByte 1) gaiaID "" "r"

def sampleCall (n : Nat) (request : Request) (steps : Nat) (id : UInt8) : List Event :=
  .start n request :: List.replicate steps (.advance n (sampleTick id))

def sampleOrder : List Event :=
  sampleCall 0 (sampleRegister "Anna") 2 1 ++ sampleCall 1 (sampleRegister "anna") 2 2 ++
    sampleCall 2 (sampleIdentity "@Ada:x.de") 3 1 ++ sampleCall 3 (sampleIdentity "@bob:x.de") 3 2 ++
    sampleCall 4 (sampleIdentity "@cyd:x.de") 3 3

theorem names_in_order :
    (exec (step .plain fun _ => true) (fresh sampleEmpty) sampleOrder).calls.rows.map (fun row => row.2.stage) =
        [.succeeded (.ofByte 1), .failed .usernameTaken, .succeeded (.ofByte 1), .succeeded (.ofByte 2), .failed .limit] ∧
      UniqueGaiaIDs (exec (step .plain fun _ => true) (fresh sampleEmpty) sampleOrder).shared ∧
      UniqueNames (exec (step .plain fun _ => true) (fresh sampleEmpty) sampleOrder).shared ∧
      AtMostTwo (exec (step .plain fun _ => true) (fresh sampleEmpty) sampleOrder).shared := by
  obtain ⟨hunique, hexclusive⟩ := names_unique .plain (fun _ => true) sampleEmpty sampleOrder (fun _ _ h => by cases h)
    (fun _ _ _ _ h => by cases h) (fun _ _ _ _ h => by cases h) fun _ => Nat.zero_le 2
  exact And.imp_right (fun hrun => ⟨hunique, hexclusive hrun⟩) (by decide +kernel)

def sampleRace : List Event :=
  [.start 0 (sampleRegister "Anna"), .start 1 (sampleRegister "anna"), .advance 0 (sampleTick 1), .advance 1 (sampleTick 2),
    .advance 0 (sampleTick 1), .advance 1 (sampleTick 2), .start 2 (sampleIdentity "@Ada:x.de"),
    .start 3 (sampleIdentity "@bob:x.de"), .start 4 (sampleIdentity "@cyd:x.de"), .advance 2 (sampleTick 1),
    .advance 3 (sampleTick 2), .advance 4 (sampleTick 3)] ++
    List.replicate 2 (.advance 2 (sampleTick 1)) ++ List.replicate 2 (.advance 3 (sampleTick 2)) ++
    List.replicate 2 (.advance 4 (sampleTick 3))

theorem names_race :
    (exec (step .plain fun _ => true) (fresh sampleEmpty) sampleRace).calls.rows.map (fun row => row.2.stage) =
        [.succeeded (.ofByte 1), .succeeded (.ofByte 2), .succeeded (.ofByte 1), .succeeded (.ofByte 2),
          .succeeded (.ofByte 3)] ∧
      ¬ UniqueNames (exec (step .plain fun _ => true) (fresh sampleEmpty) sampleRace).shared ∧
      ¬ AtMostTwo (exec (step .plain fun _ => true) (fresh sampleEmpty) sampleRace).shared := by
  generalize hdb : (exec (step .plain fun _ => true) (fresh sampleEmpty) sampleRace).shared = db
  have hrows : db.users.get? (.ofByte 1) = some ⟨"Anna", "h", "k"⟩ ∧ db.users.get? (.ofByte 2) = some ⟨"anna", "h", "k"⟩ ∧
      countIdentitiesByUserID db (.ofByte 1) = 3 → ¬ UniqueNames db ∧ ¬ AtMostTwo db := by
    rintro ⟨hfirst, hsecond, hthree⟩
    refine ⟨fun hunique => ?_, fun hlimit => ?_⟩
    · exact absurd (hunique _ _ _ _ hfirst hsecond (by decide)) (by decide)
    · have hle := hlimit (.ofByte 1)
      omega
  exact And.imp_right hrows (by subst hdb; decide +kernel)

end GaiaCom.Auth.Names
