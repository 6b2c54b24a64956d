/-
What the decisions of the operator mean for federation. Three conditions carry them: a ping shows the key of an accepted
entry, a domain that is blocked is known to federation at that time, and a domain that is accepted is unknown there or known
with the key of its entry. The code ensures none of the three.
-/
import GaiaCom.NodeRegistry.Service

namespace GaiaCom.NodeRegistry

open Lib GaiaCom.Federation

/-! ## Conditions -/

section Conditions

variable (s : State)

/-- No call to accept the domain is under way. -/
def Settled (domain : String) : Prop := ∀ row ∈ s.updates.rows, row.2.isAccepting domain = false

instance (domain : String) : Decidable (Settled s domain) := inferInstanceAs (Decidable (∀ row ∈ s.updates.rows, _))

/-- A ping with a key leaves the key of an entry that is accepted or about to be. -/
def KeepsKey (domain : String) (publicKey : List UInt8) : Prop :=
  ∀ old ∈ s.registry.get? domain, old.status = .accepted ∨ ¬ Settled s domain → publicKey = old.publicKey

instance (domain : String) (publicKey : List UInt8) : Decidable (KeepsKey s domain publicKey) :=
  inferInstanceAs (Decidable (∀ old ∈ s.registry.get? domain, old.status = .accepted ∨ ¬ Settled s domain → _))

/-- The domain can be blocked: it is known, no verification has its key in hand and no call is to accept it. -/
def CanBlock (domain : String) : Prop :=
  (s.peers.servers.table.get? domain).isSome = true ∧
    (∀ row ∈ s.peers.requests.rows, row.2.usesKeyOf domain = false) ∧ Settled s domain

instance (domain : String) : Decidable (CanBlock s domain) := inferInstanceAs (Decidable (_ ∧ _ ∧ _))

/-- The domain can be pinned to a key: it is stored in no other spelling, and with no other key. -/
def CanPin (domain : String) (publicKey : List UInt8) (ok : Bool) : Prop :=
  Peers.Spelled s.peers.servers domain ∧ (s.peers.servers.table.get? domain = none → ok = true) ∧
    ∀ r ∈ s.peers.servers.table.get? domain, r.publicKey = publicKey

instance (domain : String) (publicKey : List UInt8) (ok : Bool) : Decidable (CanPin s domain publicKey ok) :=
  inferInstanceAs (Decidable (_ ∧ _ ∧ (∀ r ∈ s.peers.servers.table.get? domain, _)))

def Update.pinning (u : Update) : Option NodeRegistryEntry :=
  match u.stage, u.status with
  | .updated entry _, .accepted => some entry
  | _, _ => none

def Update.isBlocking (u : Update) : Bool :=
  match u.stage, u.status with
  | .updated _ _, .blocked | .updated _ _, .quarantined => true
  | _, _ => false

/-- The statement on the federation servers can do what the operator decided. -/
def Update.Effective (u : Update) (ok : Bool) : Prop :=
  (∀ entry ∈ u.pinning, CanPin s u.domain entry.publicKey ok) ∧ (u.isBlocking = true → ok = true ∧ CanBlock s u.domain)

instance (u : Update) (ok : Bool) : Decidable (u.Effective s ok) :=
  inferInstanceAs (Decidable ((∀ entry ∈ u.pinning, CanPin s u.domain entry.publicKey ok) ∧ _))

/-- The conditions on an event. -/
def Bound (cm : CaseMap) (node : Node) : Event → Prop
  | .ping input isPrivate _ => ∀ r ∈ (readPing cm node isPrivate input).toOption, KeepsKey s r.1 r.2.publicKey
  | .start .. => True
  | .advance n ok => ∀ u ∈ s.updates.get? n, u.Effective s ok
  | .verify e => Peers.Orderly s.peers e

instance (cm : CaseMap) (node : Node) : ∀ e, Decidable (Bound s cm node e)
  | .ping input isPrivate _ =>
    inferInstanceAs (Decidable (∀ r ∈ (readPing cm node isPrivate input).toOption, KeepsKey s r.1 r.2.publicKey))
  | .start .. => .isTrue trivial
  | .advance n ok => inferInstanceAs (Decidable (∀ u ∈ s.updates.get? n, u.Effective s ok))
  | .verify e => inferInstanceAs (Decidable (Peers.Orderly s.peers e))

end Conditions

/-! ## What holds in every state -/

/-- What a call relies on at a stage: to accept, the entry it read has its key, and in the end the server is pinned to the
key that the row showed. -/
def Stage.Good (registry : Table String NodeRegistryEntry) (servers : Table String Peers.Server) (domain : String)
    (status : Status) : Stage → Prop
  | .found entry => status = .accepted → ∃ e, registry.get? domain = some e ∧ e.publicKey = entry.publicKey
  | .updated entry shown => status = .accepted → shown = some entry.publicKey
  | .unblocking _ shown => status = .accepted ∧ ∃ r, servers.get? domain = some r ∧ shown = some r.publicKey
  | .returned shown => status = .accepted → ∃ r, servers.get? domain = some r ∧ shown = some r.publicKey
  | .started | .failed _ => True

structure Inv (s : State) : Prop where
  peers : Peers.Inv s.peers
  banned : ∀ d ∈ s.banned, ∃ r, s.peers.servers.table.get? d = some r ∧ r.isBlocked = true
  accepting : ∀ n u d, s.updates.get? n = some u → u.isAccepting d = true → d ∉ s.banned
  updates : ∀ n u, s.updates.get? n = some u → u.stage.Good s.registry s.peers.servers.table u.domain u.status

theorem inv_init : Inv .init :=
  ⟨Peers.inv_init, fun _ h => (by cases h), fun _ _ _ h => (by cases h), fun _ _ h => (by cases h)⟩

/-! ## Federation servers -/

/-- Every server stays and keeps its key. -/
def KeepsServers (t t' : Table String Peers.Server) : Prop :=
  ∀ d r, t.get? d = some r → ∃ r', t'.get? d = some r' ∧ r'.publicKey = r.publicKey

theorem KeepsServers.refl (t : Table String Peers.Server) : KeepsServers t t := fun _ r h => ⟨r, h, rfl⟩

theorem keepsServers_setBlocked (s : Peers.Servers) (domain : String) (blocked : Bool) :
    KeepsServers s.table (Peers.setFederationServerBlocked s domain blocked).table := by
  intro d r hr
  simp only [Peers.setFederationServerBlocked, Table.get?_updateWhere, hr, Option.map_some]
  exact ⟨_, rfl, by split <;> rfl⟩

theorem get?_request (crypto : Peers.Crypto) {p : Peers.State} {e : Peers.Event} (he : isRequest e = true) {d : String}
    {r : Peers.Server} (hr : p.servers.table.get? d = some r) :
    (Peers.step crypto p e).servers.table.get? d = some r := by
  cases e with
  | arrive i request now | check i =>
    simp only [Peers.step, Peers.act]
    split <;> exact hr
  | lookup i ok =>
    simp only [Peers.step, Peers.act]
    split
    · split <;> exact hr
    exact hr
  | discover i answer ok =>
    simp only [Peers.step, Peers.act]
    split
    · split
      · exact hr
      grind [Peers.get?_create, Peers.State.goOn]
    · exact hr
  | setBlocked domain blocked ok | create domain server ok => cases he

/-! ## Steps -/

section Steps

variable {cm : CaseMap} {node : Node} {crypto : Peers.Crypto} {s : State} {u : Update}

theorem Stage.Good.frame {registry registry' : Table String NodeRegistryEntry} {servers servers' : Table String Peers.Server}
    (h : u.stage.Good registry servers u.domain u.status) (hservers : KeepsServers servers servers')
    (hregistry : ∀ e, u.isAccepting u.domain = true → registry.get? u.domain = some e →
      ∃ e', registry'.get? u.domain = some e' ∧ e'.publicKey = e.publicKey) :
    u.stage.Good registry' servers' u.domain u.status := by
  have hrow : ∀ shown, (∃ r, servers.get? u.domain = some r ∧ shown = some r.publicKey) →
      ∃ r, servers'.get? u.domain = some r ∧ shown = some r.publicKey := by
    rintro shown ⟨r, hr, rfl⟩
    obtain ⟨r', hr', hkey⟩ := hservers u.domain r hr
    exact ⟨r', hr', by rw [hkey]⟩
  cases hstage : u.stage with
  | found entry =>
    grind [Update.isAccepting, Good]
  | updated entry shown =>
    rw [hstage] at h
    exact h
  | unblocking entry shown =>
    rw [hstage] at h
    exact ⟨h.1, hrow shown h.2⟩
  | returned shown =>
    rw [hstage] at h
    exact fun hstatus => hrow shown (h hstatus)
  | started | failed => trivial

variable {d domain : String} {entry : NodeRegistryEntry}

theorem ping_key {old : NodeRegistryEntry}
    (hkeeps : d = domain → entry.publicKey = old.publicKey) (hold : s.registry.get? d = some old) :
    ∃ e', (upsertNodeRegistryEntry s.registry domain entry).get? d = some e' ∧ e'.publicKey = old.publicKey := by
  simp only [upsertNodeRegistryEntry, Table.get?_upsert]
  split
  · rename_i hd
    subst hd
    rw [hold]
    exact ⟨_, rfl, hkeeps rfl⟩
  · exact ⟨old, hold, rfl⟩

theorem status_key {lastError : String} {status : Status} {old : NodeRegistryEntry}
    (hold : s.registry.get? d = some old) :
    ∃ e', (updateNodeRegistryStatus s.registry domain status lastError).get? d = some e' ∧ e'.publicKey = old.publicKey := by
  simp only [updateNodeRegistryStatus, Table.get?_updateWhere, hold, Option.map_some]
  exact ⟨_, rfl, by split <;> rfl⟩

theorem step_ping (cm : CaseMap) (node : Node) (crypto : Peers.Crypto) (s : State) (input : PingRequest)
    (isPrivate ok : Bool) :
    step cm node crypto s (.ping input isPrivate ok) = s ∨
      ∃ domain entry, (readPing cm node isPrivate input).toOption = some (domain, entry) ∧
        step cm node crypto s (.ping input isPrivate ok) =
          { s with registry := upsertNodeRegistryEntry s.registry domain entry } := by
  have hstep : step cm node crypto s (.ping input isPrivate ok) = handlePing cm node s input isPrivate ok := rfl
  rw [hstep]
  unfold handlePing
  generalize readPing cm node isPrivate input = read
  cases read with
  | error err => exact .inl rfl
  | ok r =>
    cases ok with
    | false => exact .inl rfl
    | true => exact .inr ⟨r.1, r.2, rfl, rfl⟩

variable {ok : Bool}

theorem inv_ping (hs : Inv s) {input : PingRequest} {isPrivate : Bool}
    (hbound : Bound s cm node (.ping input isPrivate ok)) : Inv (step cm node crypto s (.ping input isPrivate ok)) := by
  rcases step_ping cm node crypto s input isPrivate ok with hsame | ⟨domain, entry, hread, hwritten⟩
  · rw [hsame]
    exact hs
  · rw [hwritten]
    refine ⟨hs.peers, hs.banned, hs.accepting, fun n u hu => ?_⟩
    refine (hs.updates n u hu).frame (KeepsServers.refl _) fun e haccepting he => ?_
    refine ping_key (fun hd => ?_) he
    refine hbound (domain, entry) hread e (hd ▸ he) (.inr fun hsettled => ?_)
    have := hsettled (n, u) (Table.get?_eq_some.1 hu)
    grind

theorem inv_start (hs : Inv s) (n : Nat) (domain status lastError : String) (isPrivate : Bool) :
    Inv (step cm node crypto s (.start n domain status lastError isPrivate)) := by
  have hstep : step cm node crypto s (.start n domain status lastError isPrivate) =
      startUpdate cm s n domain status lastError isPrivate := rfl
  rw [hstep]
  fun_cases startUpdate
  case case2 status' _ _ hfree =>
    have hnone : s.updates.get? n = none := by simpa using hfree
    have hbanned : ∀ d, d ∈ (if status' = .accepted then s.banned.filter (· ≠ normalized cm domain) else s.banned) →
        d ∈ s.banned ∧ (status' = .accepted → d ≠ normalized cm domain) := by
      intro d hd
      split at hd
      · rw [List.mem_filter] at hd
        exact ⟨hd.1, fun _ => by simpa using hd.2⟩
      · rename_i hstatus
        exact ⟨hd, fun h => absurd h hstatus⟩
    refine ⟨hs.peers, fun d hd => hs.banned d (hbanned d hd).1, fun m u d hu haccepting hd => ?_, fun m u hu => ?_⟩
    · dsimp only at hu
      rw [Table.get?_insertOrIgnore_free hnone] at hu
      split at hu
      · rw [← Option.some.inj hu] at haccepting
        simp only [Update.isAccepting, Bool.and_true, Bool.and_eq_true, decide_eq_true_eq] at haccepting
        exact (hbanned d hd).2 haccepting.2 haccepting.1.symm
      · exact hs.accepting m u d hu haccepting (hbanned d hd).1
    · dsimp only at hu
      rw [Table.get?_insertOrIgnore_free hnone] at hu
      split at hu
      · rw [← Option.some.inj hu]
        trivial
      · exact hs.updates m u hu
  all_goals exact hs

theorem inv_goOn (hs : Inv s) {n : Nat} {u : Update} (hu : s.updates.get? n = some u) {stage : Stage}
    (haccepting : ∀ d, ({ u with stage := stage } : Update).isAccepting d = true → u.isAccepting d = true)
    (hgood : stage.Good s.registry s.peers.servers.table u.domain u.status) : Inv (s.goOn n u stage) := by
  grind [State.goOn, Inv]

theorem inv_act (hs : Inv s) {e : Peers.Event} (horderly : Peers.Orderly s.peers e)
    (hkeeps : KeepsServers s.peers.servers.table (Peers.step crypto s.peers e).servers.table)
    (hbanned : ∀ d ∈ s.banned, ∀ r, s.peers.servers.table.get? d = some r → r.isBlocked = true →
      ∃ r', (Peers.step crypto s.peers e).servers.table.get? d = some r' ∧ r'.isBlocked = true) : Inv (s.act crypto e) := by
  refine ⟨Peers.inv_step crypto hs.peers horderly, fun d hd => ?_, hs.accepting, fun n u hu => ?_⟩
  · grind [hs.banned, State.act]
  · exact (hs.updates n u hu).frame hkeeps fun e _ he => ⟨e, he, rfl⟩

theorem inv_setBlocked (hs : Inv s) {blocked : Bool}
    (horderly : Peers.Orderly s.peers (.setBlocked domain blocked ok)) (hbanned : blocked = false → domain ∉ s.banned) :
    Inv (s.act crypto (.setBlocked domain blocked ok)) := by
  refine inv_act hs horderly ?_ fun d hd r hr hblocked => ?_
  · grind [Peers.step, Peers.act, keepsServers_setBlocked, KeepsServers]
  · simp only [Peers.step, Peers.act]
    split
    · simp only [Peers.setFederationServerBlocked, Table.get?_updateWhere, hr, Option.map_some]
      refine ⟨_, rfl, ?_⟩
      split
      · rename_i hdomain
        cases blocked with
        | true => rfl
        | false => exact absurd (of_decide_eq_true hdomain ▸ hd) (hbanned rfl)
      · exact hblocked
    · exact ⟨r, hr, hblocked⟩

theorem inv_createServer (hs : Inv s) {server : Peers.Server}
    (hspelled : Peers.Spelled s.peers.servers domain) : Inv (s.act crypto (.create domain server ok)) := by
  have hget : ∀ d r, s.peers.servers.table.get? d = some r →
      (Peers.step crypto s.peers (.create domain server ok)).servers.table.get? d = some r := by
    grind [Peers.step, Peers.act, Peers.get?_create]
  exact inv_act hs hspelled (fun d r hr => ⟨r, hget d r hr, rfl⟩) fun d _ r hr hblocked => ⟨r, hget d r hr, hblocked⟩

theorem inv_ban (hs : Inv s)
    (hblocked : ∃ r, s.peers.servers.table.get? domain = some r ∧ r.isBlocked = true) (hsettled : Settled s domain) :
    Inv (s.ban domain) := by
  refine ⟨hs.peers, fun d hd => ?_, fun n u d hu haccepting hd => ?_, hs.updates⟩
  · grind [hs.banned, State.ban]
  · rcases List.mem_cons.1 hd with rfl | hd
    · have := hsettled (n, u) (Table.get?_eq_some.1 hu)
      rw [haccepting] at this
      cases this
    · exact hs.accepting n u d hu haccepting hd

theorem inv_registry (hs : Inv s) {registry : Table String NodeRegistryEntry}
    (hkeeps : ∀ d e, s.registry.get? d = some e → ∃ e', registry.get? d = some e' ∧ e'.publicKey = e.publicKey) :
    Inv { s with registry := registry } :=
  ⟨hs.peers, hs.banned, hs.accepting, fun n u hu =>
    (hs.updates n u hu).frame (KeepsServers.refl _) fun e _ he => hkeeps u.domain e he⟩

theorem not_accepting_returned (u : Update) (shown : Option (List UInt8)) (d : String) :
    ({ u with stage := .returned shown } : Update).isAccepting d = false := by
  simp [Update.isAccepting]

theorem settled_returned (h : Settled s domain) (n : Nat) (u : Update) (shown : Option (List UInt8)) :
    Settled (s.goOn n u (.returned shown)) domain := by
  rintro ⟨m, v⟩ hv
  have hget := Table.get?_eq_some.2 hv
  simp only [State.goOn, Table.get?_put] at hget
  split at hget
  · grind [not_accepting_returned]
  exact h (m, v) (Table.get?_eq_some.1 hget)

variable {n : Nat}

theorem inv_block (hs : Inv s) (hu : s.updates.get? n = some u)
    {shown : Option (List UInt8)} (hstatus : u.status ≠ .accepted) (hok : ok = true) (hcan : CanBlock s u.domain) :
    Inv (((s.act crypto (.setBlocked u.domain true ok)).goOn n u (.returned shown)).ban u.domain) := by
  obtain ⟨hknown, hunused, hsettled⟩ := hcan
  have hacted : Inv (s.act crypto (.setBlocked u.domain true ok)) :=
    inv_setBlocked hs (fun _ => hunused) fun h => by cases h
  have hreturned : Inv ((s.act crypto (.setBlocked u.domain true ok)).goOn n u (.returned shown)) := by
    refine inv_goOn hacted hu (fun d h => ?_) fun h => absurd h hstatus
    rw [not_accepting_returned] at h
    cases h
  refine inv_ban hreturned ?_ (settled_returned hsettled n u shown)
  obtain ⟨r, hr⟩ := Option.isSome_iff_exists.1 hknown
  refine ⟨{ r with isBlocked := true }, ?_, rfl⟩
  simp [State.goOn, State.act, Peers.step, Peers.act, hok, Peers.setFederationServerBlocked, hr]

theorem inv_pin (hs : Inv s) (hu : s.updates.get? n = some u)
    {shown : Option (List UInt8)} (hstage : u.stage = .updated entry shown)
    (hstatus : u.status = .accepted) (hcan : CanPin s u.domain entry.publicKey ok) (created : Bool) :
    Inv ((s.act crypto (.create u.domain ⟨entry.publicKey, false⟩ ok)).goOn n u
      (if created then .returned shown else .unblocking entry shown)) := by
  obtain ⟨hspelled, hknown, hkey⟩ := hcan
  have hacted : Inv (s.act crypto (.create u.domain ⟨entry.publicKey, false⟩ ok)) := inv_createServer hs hspelled
  have hshown : shown = some entry.publicKey := by
    have hgood := hs.updates n u hu
    rw [hstage] at hgood
    exact hgood hstatus
  have hrow : ∃ r, (s.act crypto (.create u.domain ⟨entry.publicKey, false⟩ ok)).peers.servers.table.get? u.domain =
      some r ∧ shown = some r.publicKey := by
    simp only [State.act, Peers.step, Peers.act]
    cases hget : s.peers.servers.table.get? u.domain with
    | none =>
      rw [if_pos (hknown hget)]
      exact ⟨⟨entry.publicKey, false⟩, by simp [Peers.createFederationServer, hget], hshown⟩
    | some r =>
      grind [Peers.get?_create]
  cases created with
  | true =>
    refine inv_goOn hacted hu (fun d h => ?_) fun _ => hrow
    grind [not_accepting_returned]
  | false =>
    refine inv_goOn hacted hu (fun d h => ?_) ⟨hstatus, hrow⟩
    simpa [Update.isAccepting, hstage] using h

theorem inv_advance (hs : Inv s) (hu : s.updates.get? n = some u)
    (heffective : u.Effective s ok) : Inv (advanceUpdate crypto s n ok u) := by
  have hgood := hs.updates n u hu
  have hover : ∀ shown d, ({ u with stage := .returned shown } : Update).isAccepting d = true → u.isAccepting d = true := by
    grind [not_accepting_returned]
  obtain ⟨domain, status, lastError, stage⟩ := u
  cases stage with
  | started =>
    simp only [advanceUpdate]
    split
    · exact inv_goOn hs hu (fun d h => by simp [Update.isAccepting] at h) trivial
    rename_i entry hentry
    refine inv_goOn hs hu (fun d h => h) fun _ => ⟨entry, ?_, rfl⟩
    grind
  | found entry =>
    simp only [advanceUpdate]
    split
    · have hset : Inv { s with registry := updateNodeRegistryStatus s.registry domain status (safeShort lastError 500) } :=
        inv_registry hs fun d e he => status_key he
      split
      · rename_i hpending
        exact inv_goOn hset hu (hover _) fun hstatus => by rw [hpending] at hstatus; cases hstatus
      · refine inv_goOn hset hu (fun d h => h) fun hstatus => ?_
        obtain ⟨e, he, hkey⟩ := hgood hstatus <;> grind
    · exact inv_goOn hs hu (fun d h => by simp [Update.isAccepting] at h) trivial
  | updated entry shown =>
    cases status with
    | pending => exact inv_goOn hs hu (hover shown) fun h => by cases h
    | accepted => exact inv_pin hs hu rfl rfl (heffective.1 entry rfl) _
    | blocked | quarantined => exact inv_block hs hu (by simp) (heffective.2 rfl).1 (heffective.2 rfl).2
  | unblocking entry shown =>
    obtain ⟨rfl, r, hr, hshown⟩ := hgood
    have hbanned : domain ∉ s.banned := hs.accepting n _ domain hu (by simp [Update.isAccepting])
    have hacted : Inv (s.act crypto (.setBlocked domain false ok)) :=
      inv_setBlocked hs (fun h => by cases h) fun _ => hbanned
    obtain ⟨-, r', hr', hshown'⟩ := hacted.updates n _ hu
    exact inv_goOn hacted hu (hover shown) fun _ => ⟨r', hr', hshown'⟩
  | returned shown | failed err => exact hs

theorem inv_step (hs : Inv s) {e : Event} (hbound : Bound s cm node e) : Inv (step cm node crypto s e) := by
  cases e with
  | ping input isPrivate ok => exact inv_ping hs hbound
  | start n domain status lastError isPrivate => grind [inv_start]
  | advance n ok =>
    simp only [step]
    split
    · exact hs
    rename_i u hu
    exact inv_advance hs hu (hbound u hu)
  | verify e =>
    simp only [step]
    split
    · rename_i hrequest
      exact inv_act hs hbound (fun d r hr => ⟨r, get?_request crypto hrequest hr, rfl⟩)
        fun d _ r hr hblocked => ⟨r, get?_request crypto hrequest hr, hblocked⟩
    · exact hs

theorem step_key {e : Event} (hbound : Bound s cm node e)
    (hentry : s.registry.get? d = some entry) (hstatus : entry.status = .accepted) :
    ∃ entry', (step cm node crypto s e).registry.get? d = some entry' ∧ entry'.publicKey = entry.publicKey := by
  cases e with
  | ping input isPrivate ok =>
    rcases step_ping cm node crypto s input isPrivate ok with hsame | ⟨domain, new, hread, hwritten⟩
    · grind
    · rw [hwritten]
      exact ping_key (fun hd => hbound (domain, new) hread entry (hd ▸ hentry) (.inl hstatus)) hentry
  | start n domain status lastError isPrivate =>
    rw [step]
    fun_cases startUpdate <;> exact ⟨entry, hentry, rfl⟩
  | advance n ok =>
    simp only [step]
    split
    · exact ⟨entry, hentry, rfl⟩
    fun_cases advanceUpdate <;> first | exact ⟨entry, hentry, rfl⟩ | exact status_key hentry
  | verify e =>
    simp only [step]
    split <;> exact ⟨entry, hentry, rfl⟩

end Steps

/-! ## Decisions -/

/-- In every run that meets the conditions, an accepted entry keeps its key at every event, no request is verified under a
domain that was blocked or quarantined and not accepted since, and a domain that was accepted is pinned to the key that its
entry showed. -/
theorem decisions_bind (cm : CaseMap) (node : Node) (crypto : Peers.Crypto) (es : List Event)
    (h : Along (step cm node crypto) (fun s e => Bound s cm node e) .init es) :
    (∀ e, Bound (exec (step cm node crypto) .init es) cm node e → ∀ d entry,
      (exec (step cm node crypto) .init es).registry.get? d = some entry → entry.status = .accepted →
      ∃ entry', (step cm node crypto (exec (step cm node crypto) .init es) e).registry.get? d = some entry' ∧
        entry'.publicKey = entry.publicKey) ∧
    (∀ e peer, returned crypto (exec (step cm node crypto) .init es) e = some (.ok peer) →
      peer.domain ∉ (exec (step cm node crypto) .init es).banned) ∧
    ∀ n u shown, (exec (step cm node crypto) .init es).updates.get? n = some u → u.status = .accepted →
      u.stage = .returned shown →
      ∃ r, (exec (step cm node crypto) .init es).peers.servers.table.get? u.domain = some r ∧
        shown = some r.publicKey := by
  have hinv : Inv (exec (step cm node crypto) .init es) := h.invariant (P := Inv) (fun _ _ hs he => inv_step hs he) inv_init
  refine ⟨fun e he d entry => step_key he, fun e peer hok hbanned => ?_, fun n u shown hu hstatus hstage => ?_⟩
  · obtain ⟨r, hr, hblocked⟩ := hinv.banned _ hbanned
    cases e with
    | verify e =>
      simp only [returned] at hok
      split at hok
      · obtain ⟨_, v, -, -, hdomain⟩ := Peers.returned_ok hok
        have hlower : toLower peer.domain = peer.domain := by rw [hdomain, toLower_toLower]
        grind [hinv.peers.not_blocked]
      · cases hok
    | ping | start | advance => cases hok
  · have hgood := hinv.updates n u hu
    rw [hstage] at hgood
    exact hgood hstatus

/-! ## A node that is accepted, and one that is blocked -/

def sampleNode : Node := ⟨"node.example", "", ""⟩

def sampleKey : String := String.ofList (List.replicate 43 'A' ++ ['='])

def otherKey : String := String.ofList ('A' :: 'Q' :: List.replicate 41 'A' ++ ['='])

def samplePing (publicKey : String) : Event :=
  .ping ⟨"peer.example", "", publicKey, String.ofList (List.replicate 64 'a'), "", ""⟩ false true

def sampleUpdate (n : Nat) (status : Status) : List Event :=
  .start n "peer.example" status.text "" false :: List.replicate 4 (.advance n true)

def sampleRun (es : List Event) : State := exec (step .plain sampleNode Peers.accepting) .init es

def acceptedThenBlocked : List Event := samplePing sampleKey :: sampleUpdate 1 .accepted ++ sampleUpdate 2 .blocked

/-- A node that is accepted is pinned, and stays so when it is blocked later. -/
theorem accepted_node_pinned :
    (sampleRun acceptedThenBlocked).banned = ["peer.example"] ∧
      ∃ r, (sampleRun acceptedThenBlocked).peers.servers.table.get? "peer.example" = some r ∧
        some (List.replicate 32 0) = some r.publicKey := by
  unfold sampleRun
  have h : Along (step .plain sampleNode Peers.accepting) (fun s e => Bound s .plain sampleNode e) .init
        acceptedThenBlocked ∧
      (exec (step .plain sampleNode Peers.accepting) .init acceptedThenBlocked).banned = ["peer.example"] ∧
      (exec (step .plain sampleNode Peers.accepting) .init acceptedThenBlocked).updates.get? 1 =
        some ⟨"peer.example", .accepted, "", .returned (some (List.replicate 32 0))⟩ := by decide +kernel
  refine ⟨h.2.1, ?_⟩
  exact (decisions_bind .plain sampleNode Peers.accepting acceptedThenBlocked h.1).2.2 1
    ⟨"peer.example", .accepted, "", .returned (some (List.replicate 32 0))⟩ (some (List.replicate 32 0)) h.2.2 rfl rfl

def acceptedAgain : List Event :=
  samplePing sampleKey :: sampleUpdate 1 .accepted ++ samplePing otherKey :: sampleUpdate 2 .accepted

def blockedThenMet : List Event :=
  samplePing sampleKey :: sampleUpdate 1 .blocked ++ (Peers.contact "peer.example").map .verify

/-- A ping changes the key of an accepted entry, and the server keeps the first one when the operator accepts the second; a
domain that is blocked before federation knows it is verified later. -/
theorem decisions_do_not_bind :
    ((sampleRun (acceptedAgain.take 7)).registry.get? "peer.example").map (fun entry => (entry.status, entry.publicKey)) =
        some (.accepted, 1 :: List.replicate 31 0) ∧
      (sampleRun acceptedAgain).updates.get? 2 =
        some ⟨"peer.example", .accepted, "", .returned (some (1 :: List.replicate 31 0))⟩ ∧
      (sampleRun acceptedAgain).peers.servers.table.get? "peer.example" = some ⟨List.replicate 32 0, false⟩ ∧
      (sampleRun blockedThenMet).banned = ["peer.example"] ∧
      returned Peers.accepting (sampleRun blockedThenMet) (.verify (.check 0)) =
        some (.ok ⟨"peer.example", List.replicate 32 0⟩) := by
  decide +kernel

end GaiaCom.NodeRegistry
