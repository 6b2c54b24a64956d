/-
Typing signals, presence/service.go: `UpdateTyping` writes a signal into one map, under the actor, the scope and the
target, and `TypingStatus` reads it back, a direct query by its key and a channel query by a scan of all entries.

A direct signal is stored with its target as the channel too. So a channel query that names another identity's
GaiaID lists who writes to it, and the answers given to an identity are free of other people's direct signals
exactly if the query asks for no such target (`answers_confined_iff`).
-/
import GaiaCom.Core.Uuid
import GaiaCom.Core.Validate
import GaiaCom.Federation.Wire
import GaiaCom.Lib.Run
import GaiaCom.Lib.Table
import Mathlib.Data.Multiset.Basic

namespace GaiaCom.Presence

open Lib Core Utf8
open Federation.Wire (Bytes bytes)

/-! ## Identities -/

/-- A GaiaID as registration stores it. -/
structure GaiaID where
  text : String
  valid : Core.gaiaID text = .ok ()
  lower : Lib.toLower text = text
  deriving DecidableEq

def GaiaID.bytes (id : GaiaID) : Bytes := Federation.Wire.bytes id.text

/-- A row of identities. -/
structure Identity where
  userID : UUID
  gaiaID : GaiaID
  isActive : Bool

/-- What a call finds in the database, and which of its two queries fail. -/
structure Store where
  identities : Table UUID Identity
  belongsFails : Bool
  findFails : Bool

inductive Error where
  | invalidRequest | notAuthorized | notFound | invalidScope
  deriving DecidableEq, Repr

def Store.identityBelongsToUser (store : Store) (identityID userID : UUID) : Option Bool :=
  if store.belongsFails then none
  else some ((store.identities.get? identityID).any fun row => row.userID = userID && row.isActive)

def Store.findIdentityByID (store : Store) (identityID : UUID) : Option Identity :=
  if store.findFails then none else store.identities.get? identityID

def resolveOwnedIdentity (store : Store) (userID identityID : UUID) : Except Error Identity :=
  if userID = .nil ∨ identityID = .nil then .error .invalidRequest
  else if store.identityBelongsToUser identityID userID ≠ some true then .error .notAuthorized
  else
    match store.findIdentityByID identityID with
    | none => .error .notFound
    | some identity => .ok identity

/-! ## Signals -/

inductive Scope where
  | direct | channel
  deriving DecidableEq, Repr

def Scope.text : Scope → Bytes
  | .direct => Federation.Wire.bytes "direct"
  | .channel => Federation.Wire.bytes "channel"

def normalizeTypingScope (k : Casing) (peerGaiaID channelID : Bytes) : Except Error (Scope × Bytes) :=
  let cleanPeer := k.toLower (trimBytes peerGaiaID)
  let cleanChannel := trimBytes channelID
  if cleanPeer ≠ [] ∧ cleanChannel = [] then .ok (.direct, cleanPeer)
  else if cleanChannel ≠ [] ∧ cleanPeer = [] then .ok (.channel, cleanChannel)
  else .error .invalidScope

def typingStateKey (actorGaiaID : Bytes) (scope : Scope) (target : Bytes) : Bytes :=
  actorGaiaID ++ Federation.Wire.bytes "|" ++ scope.text ++ Federation.Wire.bytes "|" ++ target

/-- `typingSignalWindow` in nanoseconds. -/
def typingSignalWindow : Int := 6000000000

structure TypingSignal where
  actorGaiaID : GaiaID
  peerGaiaID : Bytes
  channelID : Bytes
  expiresAt : Int
  deriving DecidableEq

/-- The map of the service. -/
abbrev State := Table Bytes TypingSignal

def pruneExpired (now : Int) (state : State) : State := state.deleteWhere fun _ signal => signal.expiresAt < now

/-- `models.DirectTypingState` and `models.ChannelTypingState`. -/
structure TypingState where
  actorGaiaID : String
  isTyping : Bool
  deriving DecidableEq

/-- `models.TypingStatusResponse`. The order of the channel's entries is that of a Go map, so there is none. -/
structure TypingStatusResponse where
  direct : Option TypingState := none
  channel : Multiset TypingState := 0
  deriving DecidableEq

/-- The arguments of `UpdateTyping`, with both readings of the clock. -/
structure Update where
  store : Store
  userID : UUID
  identityID : UUID
  peerGaiaID : Bytes
  channelID : Bytes
  isTyping : Bool
  now : Int
  later : Int

/-- The arguments of `TypingStatus`. -/
structure Query where
  store : Store
  userID : UUID
  identityID : UUID
  peerGaiaID : Bytes
  channelID : Bytes
  now : Int

def updateTyping (k : Casing) (state : State) (call : Update) : Except Error (State × TypingStatusResponse) := do
  let identity ← resolveOwnedIdentity call.store call.userID call.identityID
  let (scope, target) ← normalizeTypingScope k call.peerGaiaID call.channelID
  let state := pruneExpired call.now state
  let key := typingStateKey (k.toLower identity.gaiaID.bytes) scope target
  if call.isTyping then
    .ok (state.put key ⟨identity.gaiaID, target, target, call.later + typingSignalWindow⟩, {})
  else .ok (state.deleteWhere fun key' _ => key' = key, {})

def listed (gaiaID : GaiaID) (target : Bytes) (signal : TypingSignal) : Bool :=
  signal.channelID = target && !equalFold signal.actorGaiaID.text gaiaID.text

def TypingSignal.state (signal : TypingSignal) : TypingState := ⟨signal.actorGaiaID.text, true⟩

def typingStatus (k : Casing) (state : State) (query : Query) : Except Error (State × TypingStatusResponse) := do
  let identity ← resolveOwnedIdentity query.store query.userID query.identityID
  let (scope, target) ← normalizeTypingScope k query.peerGaiaID query.channelID
  let selfGaiaID := k.toLower (trimBytes identity.gaiaID.bytes)
  let state := pruneExpired query.now state
  match scope with
  | .direct =>
    let key := typingStateKey (k.toLower target) scope selfGaiaID
    .ok (state, { direct := (state.get? key).map TypingSignal.state })
  | .channel =>
    let signals := (state.rows.map Prod.snd).filter (listed identity.gaiaID target)
    .ok (state, { channel := (signals.map TypingSignal.state : List TypingState) })

/-! ## Histories -/

inductive Event where
  | update (call : Update)
  | status (query : Query)

def Event.now : Event → Int
  | .update call => call.now
  | .status query => query.now

def step (k : Casing) (state : State) : Event → State
  | .update call => ((updateTyping k state call).map Prod.fst).toOption.getD state
  | .status query => ((typingStatus k state query).map Prod.fst).toOption.getD state

/-- The clock does not run backwards, up to the time of a query. -/
def Clocked (now : Int) (events : List Event) : Prop := (events.map Event.now ++ [now]).Pairwise (· ≤ ·)

instance (now : Int) (events : List Event) : Decidable (Clocked now events) :=
  inferInstanceAs (Decidable (List.Pairwise _ _))

def answer (k : Casing) (events : List Event) (query : Query) : Except Error TypingStatusResponse :=
  (typingStatus k (exec (step k) .empty events) query).map Prod.snd

def foreign (k : Casing) (gaiaID : GaiaID) : Event → Bool
  | .update call =>
    match resolveOwnedIdentity call.store call.userID call.identityID,
      normalizeTypingScope k call.peerGaiaID call.channelID with
    | .ok identity, .ok (.direct, target) => identity.gaiaID ≠ gaiaID && target ≠ gaiaID.bytes
    | _, _ => false
  | .status _ => false

/-- The histories differ only in such signals. -/
def DifferInForeign (k : Casing) (gaiaID : GaiaID) (events events' : List Event) : Prop :=
  events.filter (!foreign k gaiaID ·) = events'.filter (!foreign k gaiaID ·)

/-- What the identity of the query is told does not depend on direct signals between others. -/
def Confined (k : Casing) (query : Query) : Prop :=
  ∀ identity, resolveOwnedIdentity query.store query.userID query.identityID = .ok identity →
    ∀ events events', Clocked query.now events → Clocked query.now events' →
      DifferInForeign k identity.gaiaID events events' → answer k events query = answer k events' query

/-! ## What a query may ask for -/

/-- A direct signal can be addressed to it. -/
def Addressable (k : Casing) (target : Bytes) : Prop :=
  ∃ peerGaiaID channelID, normalizeTypingScope k peerGaiaID channelID = .ok (.direct, target)

/-- A key under which a direct signal from another identity to another target is stored. -/
def ForeignKey (k : Casing) (gaiaID : GaiaID) (key : Bytes) : Prop :=
  ∃ (actor : GaiaID) (target : Bytes), actor ≠ gaiaID ∧ target ≠ gaiaID.bytes ∧ Addressable k target ∧
    key = typingStateKey actor.bytes .direct target

/-- The query reads no entry of a direct signal between others: a direct query does not spell the key of one, and
a channel query names nobody else. -/
def Sealed (k : Casing) (gaiaID : GaiaID) (query : Query) : Prop :=
  match normalizeTypingScope k query.peerGaiaID query.channelID with
  | .ok (.direct, peer) => ¬ ForeignKey k gaiaID (typingStateKey (k.toLower peer) .direct gaiaID.bytes)
  | .ok (.channel, target) => target = gaiaID.bytes ∨ ¬ Addressable k target
  | .error _ => True

/-! ## GaiaIDs as strings -/

namespace GaiaID

variable (id : GaiaID)

theorem char_cases {c : Char} (hc : c ∈ id.text.toList) : c.toNat < 0x80 ∧ isSpace c = false ∧ c ≠ '|' := by
  obtain ⟨heq, hlocal, hdomain⟩ := gaiaID_ok id.valid
  have hbytes := (domain_bytes hdomain).2
  have hdom : ∀ {c}, isDomainByte c = true → c.toNat < 0x80 ∧ isSpace c = false ∧ c ≠ '|' := by
    intro c h
    have hle := (isDomainByte_range h).2.1
    exact ⟨by omega, isDomainByte_not_space h, by rintro rfl; exact absurd hle (by decide)⟩
  rw [heq, List.cons_append, List.mem_cons, List.mem_append, List.mem_cons] at hc
  rcases hc with rfl | hc | rfl | hc
  · decide
  · by_cases hu : c = '_'
    · subst hu; decide
    grind [isLocalByte, isDomainByte]
  · decide
  · exact hdom (hbytes c hc)

@[simp, grind =] theorem toLower_bytes (k : Casing) : k.toLower id.bytes = id.bytes := by
  have hlower : id.text.toList.map lowerChar = id.text.toList := by
    rw [← toList_toLower, id.lower]
  rw [GaiaID.bytes, Federation.Wire.bytes, Casing.toLower_encode fun c hc => (id.char_cases hc).1, hlower]

@[simp, grind =] theorem trimBytes_bytes : trimBytes id.bytes = id.bytes := by
  have hspace : ∀ c ∈ id.text.toList, isSpace c = false := fun c hc => (id.char_cases hc).2.1
  rw [GaiaID.bytes, Federation.Wire.bytes, trimBytes_encode,
    trim_eq_self (fun c hc => hspace c (List.mem_of_head? hc)) fun c hc => hspace c (List.mem_of_getLast? hc)]

theorem bar_not_mem : 124 ∉ id.bytes := by
  intro h
  exact (id.char_cases ((mem_encode_ascii (a := '|') (by decide)).1 h)).2.2 rfl

variable {id} {id' : GaiaID}

theorem ext_text (h : id.text = id'.text) : id = id' := by
  cases id; cases id'; cases h; rfl

theorem bytes_inj (h : id.bytes = id'.bytes) : id = id' :=
  ext_text (String.toList_injective (encode_inj h))

theorem map_foldChar : id.text.toList.map foldChar = id.text.toList := by
  have hfold : ∀ c ∈ id.text.toList, foldChar c = lowerChar c := by
    intro c hc
    have hascii := (id.char_cases hc).1
    rw [foldChar, if_neg (by omega), if_neg (by omega)]
  rw [List.map_congr_left hfold, ← toList_toLower, id.lower]

theorem equalFold_iff : equalFold id.text id'.text = true ↔ id = id' := by
  rw [equalFold, beq_iff_eq, map_foldChar, map_foldChar]
  grind [ext_text, String.toList_injective]

end GaiaID

/-! ## Keys -/

theorem typingStateKey_eq (actor : Bytes) (scope : Scope) (target : Bytes) :
    typingStateKey actor scope target = actor ++ 124 :: (scope.text ++ 124 :: target) := by
  have hbar : Federation.Wire.bytes "|" = [124] := by decide +kernel
  simp only [typingStateKey, hbar, List.append_assoc, List.cons_append, List.nil_append]

theorem typingStateKey_inj {actor actor' : GaiaID} {scope scope' : Scope} {target target' : Bytes}
    (h : typingStateKey actor.bytes scope target = typingStateKey actor'.bytes scope' target') :
    actor = actor' ∧ scope = scope' ∧ target = target' := by
  rw [typingStateKey_eq, typingStateKey_eq] at h
  obtain ⟨hactor, hrest⟩ := cut_first actor.bar_not_mem actor'.bar_not_mem h
  have hbar : ∀ scope : Scope, (124 : UInt8) ∉ scope.text := by
    intro scope
    cases scope <;> decide +kernel
  obtain ⟨hscope, htarget⟩ := cut_first (hbar scope) (hbar scope') hrest
  refine ⟨GaiaID.bytes_inj hactor, ?_, htarget⟩
  cases scope <;> cases scope' <;> first | rfl | exact absurd hscope (by decide +kernel)

/-! ## What a call does to the map -/

section Steps

variable {k : Casing} {s s' : State}

def Update.signal (call : Update) (gaiaID : GaiaID) (target : Bytes) : Option TypingSignal :=
  if call.isTyping then some ⟨gaiaID, target, target, call.later + typingSignalWindow⟩ else none

theorem get?_updateTyping (call : Update) {identity : Identity} {scope : Scope} {target : Bytes}
    (hid : resolveOwnedIdentity call.store call.userID call.identityID = .ok identity)
    (hscope : normalizeTypingScope k call.peerGaiaID call.channelID = .ok (scope, target)) (s : State) (key : Bytes) :
    (step k s (.update call)).get? key =
      if key = typingStateKey identity.gaiaID.bytes scope target then call.signal identity.gaiaID target
      else (pruneExpired call.now s).get? key := by
  simp only [step, updateTyping, hid, hscope, GaiaID.toLower_bytes, bind, Except.bind, Update.signal]
  cases call.isTyping with
  | true => exact Table.get?_put ..
  | false =>
    simp only [Bool.false_eq_true, if_false, Except.map, Except.toOption, Option.getD_some]
    by_cases hkey : key = typingStateKey identity.gaiaID.bytes scope target
    · simp [hkey]
    · rw [Table.get?_deleteWhere_of_forall fun _ => by simp [hkey], if_neg hkey]

/-- A call is refused, or only drops what has expired, or writes under the key of its actor, scope and target. -/
theorem step_cases (k : Casing) (e : Event) :
    (∀ s, step k s e = s) ∨ (∀ s, step k s e = pruneExpired e.now s) ∨
      ∃ call identity scope target, e = .update call ∧
        resolveOwnedIdentity call.store call.userID call.identityID = .ok identity ∧
        normalizeTypingScope k call.peerGaiaID call.channelID = .ok (scope, target) := by
  cases e with
  | update call =>
    cases hid : resolveOwnedIdentity call.store call.userID call.identityID with
    | error e => exact .inl fun s => by simp only [step, updateTyping, hid]; rfl
    | ok identity =>
      cases hscope : normalizeTypingScope k call.peerGaiaID call.channelID with
      | error e => exact .inl fun s => by simp only [step, updateTyping, hid, hscope]; rfl
      | ok place => grind
  | status query =>
    cases hid : resolveOwnedIdentity query.store query.userID query.identityID with
    | error e => exact .inl fun s => by simp only [step, typingStatus, hid]; rfl
    | ok identity =>
      cases hscope : normalizeTypingScope k query.peerGaiaID query.channelID with
      | error e => exact .inl fun s => by simp only [step, typingStatus, hid, hscope]; rfl
      | ok place =>
        obtain ⟨scope, target⟩ := place
        refine .inr (.inl fun s => ?_)
        cases scope <;> simp only [step, typingStatus, hid, hscope] <;> rfl

theorem foreign_cases {gaiaID : GaiaID} {e : Event} (h : foreign k gaiaID e = true) :
    ∃ call identity target, e = .update call ∧
      resolveOwnedIdentity call.store call.userID call.identityID = .ok identity ∧
      normalizeTypingScope k call.peerGaiaID call.channelID = .ok (.direct, target) ∧
      identity.gaiaID ≠ gaiaID ∧ target ≠ gaiaID.bytes := by
  cases e with
  | status query => cases h
  | update call =>
    simp only [foreign] at h
    split at h
    · rename_i identity target hid hscope
      simp only [ne_eq, decide_not, Bool.and_eq_true, Bool.not_eq_true', decide_eq_false_iff_not] at h
      exact ⟨call, identity, target, rfl, hid, hscope, h⟩
    · cases h

end Steps

/-! ## Two histories -/

section Agreement

variable {k : Casing} {gaiaID : GaiaID} {now now' : Int} {s s' : State}

/-- The maps hold the same live signals, direct signals between others apart. -/
def Agree (k : Casing) (gaiaID : GaiaID) (now : Int) (s s' : State) : Prop :=
  ∀ key, ¬ ForeignKey k gaiaID key → (pruneExpired now s).get? key = (pruneExpired now s').get? key

theorem get?_prune_prune (h : now ≤ now') (s : State) (key : Bytes) :
    (pruneExpired now' (pruneExpired now s)).get? key = (pruneExpired now' s).get? key := by
  simp only [pruneExpired, Table.get?_deleteWhere, Option.filter_filter]
  congr 1
  funext signal
  have hlive : signal.expiresAt < now → signal.expiresAt < now' := fun hlt => lt_of_lt_of_le hlt h
  by_cases hlt : signal.expiresAt < now <;> simp [hlt, hlive]

theorem Agree.mono (h : Agree k gaiaID now s s') (hle : now ≤ now') : Agree k gaiaID now' s s' := by
  intro key hkey
  have heq := congrArg (Option.filter fun signal => !decide (signal.expiresAt < now')) (h key hkey)
  rw [← get?_prune_prune hle s, ← get?_prune_prune hle s']
  simpa only [pruneExpired, Table.get?_deleteWhere] using heq

theorem Agree.step {e : Event} (h : Agree k gaiaID e.now s s') :
    Agree k gaiaID e.now (Presence.step k s e) (Presence.step k s' e) := by
  intro key hkey
  rcases step_cases k e with hsame | hprune | ⟨call, identity, scope, target, rfl, hid, hscope⟩
  · rw [hsame, hsame]
    exact h key hkey
  · rw [hprune, hprune, get?_prune_prune le_rfl, get?_prune_prune le_rfl]
    exact h key hkey
  · have hold := h key hkey
    simp only [pruneExpired, Table.get?_deleteWhere] at hold
    simp only [pruneExpired, Table.get?_deleteWhere, get?_updateTyping _ hid hscope]
    split_ifs with heq
    · rfl
    · exact congrArg _ hold

theorem Agree.foreign {e : Event} (h : Agree k gaiaID e.now s s') (he : Presence.foreign k gaiaID e = true) :
    Agree k gaiaID e.now (Presence.step k s e) s' := by
  obtain ⟨call, identity, target, rfl, hid, hscope, hactor, htarget⟩ := foreign_cases he
  intro key hkey
  have hother : key ≠ typingStateKey identity.gaiaID.bytes .direct target := by
    rintro rfl
    exact hkey ⟨identity.gaiaID, target, hactor, htarget, ⟨_, _, hscope⟩, rfl⟩
  have hstep : (pruneExpired call.now (Presence.step k s (.update call))).get? key =
      (pruneExpired call.now (pruneExpired call.now s)).get? key := by
    rw [pruneExpired, pruneExpired, Table.get?_deleteWhere, Table.get?_deleteWhere, get?_updateTyping _ hid hscope,
      if_neg hother]
  exact hstep.trans ((get?_prune_prune le_rfl s key).trans (h key hkey))

theorem agree_filter {events : List Event} (hclock : Clocked now' events)
    (hle : ∀ time ∈ events.map Event.now ++ [now'], now ≤ time) (h : Agree k gaiaID now s s') :
    Agree k gaiaID now' (exec (Presence.step k) s events)
      (exec (Presence.step k) s' (events.filter (!Presence.foreign k gaiaID ·))) := by
  induction events generalizing s s' now with
  | nil => exact h.mono (hle now' (by simp))
  | cons e events ih =>
    obtain ⟨hnext, hclock⟩ := List.pairwise_cons.1 hclock
    have hnow : Agree k gaiaID e.now s s' := h.mono (hle e.now (by simp))
    cases he : Presence.foreign k gaiaID e with
    | true =>
      rw [List.filter_cons_of_neg (by simp [he])]
      exact ih hclock hnext (hnow.foreign he)
    | false =>
      rw [List.filter_cons_of_pos (by simp [he])]
      exact ih hclock hnext hnow.step

end Agreement

/-! ## Where entries stand -/

section Placement

variable {k : Casing} {gaiaID : GaiaID} {now : Int} {s s' : State} {query : Query}

/-- Every entry stands under its actor, a scope and its target. -/
def Placed (k : Casing) (s : State) : Prop :=
  ∀ key signal, s.get? key = some signal → ∃ scope,
    key = typingStateKey signal.actorGaiaID.bytes scope signal.channelID ∧
      (scope = .direct → Addressable k signal.channelID)

theorem Placed.prune (h : Placed k s) (now : Int) : Placed k (pruneExpired now s) :=
  fun key signal hsignal => h key signal (Table.get?_of_deleteWhere hsignal)

theorem Placed.step (h : Placed k s) (e : Event) : Placed k (Presence.step k s e) := by
  rcases step_cases k e with hsame | hprune | ⟨call, identity, scope, target, rfl, hid, hscope⟩
  · rwa [hsame]
  · rw [hprune]
    exact h.prune e.now
  · intro key signal hsignal
    rw [get?_updateTyping _ hid hscope] at hsignal
    split_ifs at hsignal with hkey
    · obtain ⟨-, hnew⟩ := Option.ite_none_right_eq_some.1 hsignal
      obtain rfl := Option.some.inj hnew
      exact ⟨scope, hkey, fun hdirect => ⟨_, _, hdirect ▸ hscope⟩⟩
    · exact h.prune call.now key signal hsignal

theorem placed_exec (k : Casing) (events : List Event) : Placed k (exec (Presence.step k) .empty events) :=
  exec_invariant (fun _ e h => h.step e) events fun _ _ h => by cases h

theorem Placed.target_of_foreign (h : Placed k s) {key : Bytes} {signal : TypingSignal} (hsignal : s.get? key = some signal)
    (hkey : ForeignKey k gaiaID key) : signal.channelID ≠ gaiaID.bytes ∧ Addressable k signal.channelID := by
  obtain ⟨actor, target, -, htarget, haddr, rfl⟩ := hkey
  obtain ⟨scope, heq, -⟩ := h _ _ hsignal
  obtain ⟨-, -, rfl⟩ := typingStateKey_inj heq
  exact ⟨htarget, haddr⟩

theorem perm_listed {target : Bytes} (hs : Placed k s) (hs' : Placed k s') (h : Agree k gaiaID now s s')
    (htarget : target = gaiaID.bytes ∨ ¬ Addressable k target) :
    (((pruneExpired now s).rows.map Prod.snd).filter (listed gaiaID target)).Perm
      (((pruneExpired now s').rows.map Prod.snd).filter (listed gaiaID target)) := by
  rw [List.filter_map, List.filter_map]
  refine List.Perm.map _ (Table.perm_filter (p := fun _ signal => listed gaiaID target signal) fun key signal hlisted => ?_)
  have hchannel : signal.channelID = target := by
    simp only [listed, Bool.and_eq_true, decide_eq_true_eq] at hlisted
    exact hlisted.1
  have hmine : ∀ {s}, Placed k s → s.get? key = some signal → ¬ ForeignKey k gaiaID key := by
    intro s hs hsignal hkey
    obtain ⟨hne, haddr⟩ := hs.target_of_foreign hsignal hkey
    rw [hchannel] at hne haddr
    exact htarget.elim hne fun hno => hno haddr
  constructor
  · intro hsignal
    rwa [← h key (hmine (hs.prune now) hsignal)]
  · intro hsignal
    rwa [h key (hmine (hs'.prune now) hsignal)]

end Placement

/-! ## Who learns of a signal -/

section Answers

variable {k : Casing} {query : Query} {identity : Identity}

theorem answer_direct {peer : Bytes} (hid : resolveOwnedIdentity query.store query.userID query.identityID = .ok identity)
    (hscope : normalizeTypingScope k query.peerGaiaID query.channelID = .ok (.direct, peer)) (events : List Event) :
    answer k events query = .ok { direct :=
      ((pruneExpired query.now (exec (step k) .empty events)).get?
        (typingStateKey (k.toLower peer) .direct identity.gaiaID.bytes)).map TypingSignal.state } := by
  simp only [answer, typingStatus, hid, hscope, GaiaID.trimBytes_bytes, GaiaID.toLower_bytes]
  rfl

variable {target : Bytes}

theorem answer_channel (hid : resolveOwnedIdentity query.store query.userID query.identityID = .ok identity)
    (hscope : normalizeTypingScope k query.peerGaiaID query.channelID = .ok (.channel, target)) (events : List Event) :
    answer k events query = .ok { channel :=
      ((((pruneExpired query.now (exec (step k) .empty events)).rows.map Prod.snd).filter
        (listed identity.gaiaID target)).map TypingSignal.state : List TypingState) } := by
  simp only [answer, typingStatus, hid, hscope]
  rfl

theorem answer_filter (hid : resolveOwnedIdentity query.store query.userID query.identityID = .ok identity)
    (hsealed : Sealed k identity.gaiaID query) {events : List Event} (hclock : Clocked query.now events) :
    answer k events query = answer k (events.filter (!foreign k identity.gaiaID ·)) query := by
  -- all clocks of the history are reached from its earliest
  have hagree : Agree k identity.gaiaID query.now (exec (step k) .empty events)
      (exec (step k) .empty (events.filter (!foreign k identity.gaiaID ·))) := by
    cases events with
    | nil => exact fun _ _ => rfl
    | cons e events =>
      have hle : ∀ time ∈ (e :: events).map Event.now ++ [query.now], e.now ≤ time :=
        List.forall_mem_cons.2 ⟨le_rfl, (List.pairwise_cons.1 hclock).1⟩
      exact agree_filter hclock hle fun _ _ => rfl
  cases hscope : normalizeTypingScope k query.peerGaiaID query.channelID with
  | error e => simp only [answer, typingStatus, hid, hscope]; rfl
  | ok place =>
    simp only [Sealed, hscope] at hsealed
    obtain ⟨_ | _, target⟩ := place
    · rw [answer_direct hid hscope, answer_direct hid hscope, hagree _ hsealed]
    · rw [answer_channel hid hscope, answer_channel hid hscope]
      have hperm := (perm_listed (placed_exec k _) (placed_exec k _) hagree hsealed).map TypingSignal.state
      rw [Multiset.coe_eq_coe.2 hperm]

def soleStore (gaiaID : GaiaID) : Store := ⟨Table.empty.put (.ofByte 1) ⟨.ofByte 2, gaiaID, true⟩, false, false⟩

def signalTo (actor : GaiaID) (peerGaiaID channelID : Bytes) (now : Int) : Update :=
  ⟨soleStore actor, .ofByte 2, .ofByte 1, peerGaiaID, channelID, true, now, now⟩

theorem resolve_soleStore (actor : GaiaID) :
    resolveOwnedIdentity (soleStore actor) (.ofByte 2) (.ofByte 1) = .ok ⟨.ofByte 2, actor, true⟩ := by
  have hbelongs : (soleStore actor).identityBelongsToUser (.ofByte 1) (.ofByte 2) = some true := by
    simp [Store.identityBelongsToUser, soleStore]
  have hfind : (soleStore actor).findIdentityByID (.ofByte 1) = some ⟨.ofByte 2, actor, true⟩ := by
    simp [Store.findIdentityByID, soleStore]
  rw [resolveOwnedIdentity, if_neg (by decide), if_neg (not_not.2 hbelongs), hfind]

theorem confined_signal {actor : GaiaID} {peerGaiaID channelID : Bytes} (hconfined : Confined k query)
    (hid : resolveOwnedIdentity query.store query.userID query.identityID = .ok identity)
    (hscope : normalizeTypingScope k peerGaiaID channelID = .ok (.direct, target)) (hactor : actor ≠ identity.gaiaID)
    (htarget : target ≠ identity.gaiaID.bytes) :
    answer k [.update (signalTo actor peerGaiaID channelID query.now)] query = answer k [] query := by
  refine hconfined identity hid _ _ ?_ ?_ ?_
  · simp [Clocked, signalTo, Event.now]
  · simp [Clocked]
  · have hforeign : foreign k identity.gaiaID (.update (signalTo actor peerGaiaID channelID query.now)) = true := by
      grind [signalTo, foreign, resolve_soleStore]
    simp [DifferInForeign, hforeign]

theorem get?_signalTo (actor : GaiaID) {peerGaiaID channelID : Bytes}
    (hscope : normalizeTypingScope k peerGaiaID channelID = .ok (.direct, target)) (now : Int) :
    (pruneExpired now (exec (step k) .empty [.update (signalTo actor peerGaiaID channelID now)])).get?
      (typingStateKey actor.bytes .direct target) = some ⟨actor, target, target, now + typingSignalWindow⟩ := by
  have hwritten := get?_updateTyping (signalTo actor peerGaiaID channelID now) (resolve_soleStore actor) hscope
    .empty (typingStateKey actor.bytes .direct target)
  grind [pruneExpired, Table.get?_deleteWhere, Update.signal, signalTo, typingSignalWindow]

theorem exists_other (gaiaID : GaiaID) : ∃ actor : GaiaID, actor ≠ gaiaID := by
  let alice : GaiaID := ⟨"@alice:a.b", by decide +kernel, by decide +kernel⟩
  let bob : GaiaID := ⟨"@bob:a.b", by decide +kernel, by decide +kernel⟩
  have hne : alice ≠ bob := fun h => absurd (congrArg GaiaID.text h) (by decide)
  by_cases h : alice = gaiaID
  · exact ⟨bob, fun hb => hne (h.trans hb.symm)⟩
  · exact ⟨alice, h⟩

theorem sealed_of_confined (hconfined : Confined k query)
    (hid : resolveOwnedIdentity query.store query.userID query.identityID = .ok identity) :
    Sealed k identity.gaiaID query := by
  unfold Sealed
  split
  · rename_i peer hscope
    rintro ⟨actor, target, hactor, htarget, ⟨peerGaiaID, channelID, haddr⟩, hkey⟩
    have hsame := confined_signal hconfined hid haddr hactor htarget
    rw [answer_direct hid hscope, answer_direct hid hscope, hkey, get?_signalTo _ haddr] at hsame
    simp [pruneExpired] at hsame
  · rename_i target hscope
    by_contra hnot
    rw [not_or, not_not] at hnot
    obtain ⟨htarget, peerGaiaID, channelID, haddr⟩ := hnot
    obtain ⟨actor, hactor⟩ := exists_other identity.gaiaID
    have hsame := confined_signal hconfined hid haddr hactor htarget
    rw [answer_channel hid hscope, answer_channel hid hscope] at hsame
    -- the new entry is listed, so the list is not empty
    have hmem := Table.get?_eq_some.1 (get?_signalTo actor haddr query.now)
    have hlisted : listed identity.gaiaID target ⟨actor, target, target, query.now + typingSignalWindow⟩ = true := by
      grind [listed, GaiaID.equalFold_iff]
    have hshown := List.mem_map_of_mem (f := TypingSignal.state)
      (List.mem_filter.2 ⟨List.mem_map_of_mem (f := Prod.snd) hmem, hlisted⟩)
    simp only [Except.ok.injEq, TypingStatusResponse.mk.injEq, true_and] at hsame
    have hnone : _ ∈ (_ : Multiset TypingState) := hsame ▸ Multiset.mem_coe.2 hshown
    exact absurd hnone (by simp [pruneExpired, Table.deleteWhere, Table.empty])
  · trivial

end Answers

/-- For every query: the answer does not depend on direct signals between identities other than the asking one
exactly if the query is sealed. -/
theorem answers_confined_iff (k : Casing) (query : Query) :
    Confined k query ↔ ∀ identity, resolveOwnedIdentity query.store query.userID query.identityID = .ok identity →
      Sealed k identity.gaiaID query := by
  constructor
  · grind [sealed_of_confined]
  · intro hsealed identity hid events events' hclock hclock' hdiffer
    have hsealed := hsealed identity hid
    rw [answer_filter hid hsealed hclock, answer_filter hid hsealed hclock', hdiffer]

/-! ## Overhearing -/

def alice : GaiaID := ⟨"@alice:node.example", by decide +kernel, by decide +kernel⟩
def bob : GaiaID := ⟨"@bob:node.example", by decide +kernel, by decide +kernel⟩
def carol : GaiaID := ⟨"@carol:node.example", by decide +kernel, by decide +kernel⟩

def aliceToBob : Update := signalTo alice bob.bytes [] 1000

def carolAsks : Query := ⟨soleStore carol, .ofByte 2, .ofByte 1, [], bob.bytes, 1000001000⟩

/-- Carol is told that Alice types. -/
theorem channel_query_overhears : DifferInForeign Casing.plain carol [.update aliceToBob] [] ∧
    (answer Casing.plain [] carolAsks).toOption = some {} ∧
    (answer Casing.plain [.update aliceToBob] carolAsks).toOption = some { channel := {⟨"@alice:node.example", true⟩} } ∧
    ¬ Confined Casing.plain carolAsks := by
  have hforeign : foreign Casing.plain carol (.update aliceToBob) = true := by decide +kernel
  have hdiffer : DifferInForeign Casing.plain carol [.update aliceToBob] [] := by simp [DifferInForeign, hforeign]
  have hnone : (answer Casing.plain [] carolAsks).toOption = some {} := by decide +kernel
  have hlists : (answer Casing.plain [.update aliceToBob] carolAsks).toOption =
      some { channel := {⟨"@alice:node.example", true⟩} } := by decide +kernel
  refine ⟨hdiffer, hnone, hlists, fun hconfined => ?_⟩
  have hsame := hconfined ⟨.ofByte 2, carol, true⟩ (resolve_soleStore carol) [.update aliceToBob] []
    (by decide +kernel) (by decide +kernel) hdiffer
  rw [hsame, hnone] at hlists
  exact absurd hlists (by decide +kernel)

end GaiaCom.Presence
