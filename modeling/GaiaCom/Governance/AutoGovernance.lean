/-
governance/service.go: `runAutoGovernance`, which gives the seats of reviewers to active identities. A run counts the
seats that are taken and fills the others. It counts only identities in good standing whose credential lasts for three
more days, while every credential counts until it ends; so the limits hold in every run in which all holders are counted.
A run is one step: the worker is alone, and what others write is there before or after it.
-/
import GaiaCom.Governance.Service
import Mathlib.Data.List.Sort

namespace GaiaCom.Governance.AutoGovernance

open Lib Core GaiaCom.Store

/-! ## Tables -/

/-- A row of identities, without its GaiaID; `identityKey` is the key under which reports are stored. -/
structure Identity where
  userID : UUID
  isActive : Bool
  createdAt : Nat
  identityKey : String
  deriving DecidableEq

/-- The columns of abuse_cases that are counted. -/
structure ReportedCase where
  reportedIdentityHash : String
  status : String
  deriving DecidableEq

/-- The columns of message_envelopes that are counted. -/
structure Message where
  sender : String
  createdAt : String
  deriving DecidableEq

/-- A row of role_credentials. -/
structure Credential where
  role : String
  subjectIdentity : String
  validFrom : Nat
  validUntil : Nat
  issuer : String
  deriving DecidableEq

/-- The tables; of abuse_scores the scores, of role_credential_revocations the credentials. -/
structure Store where
  identities : Table String Identity
  cases : List ReportedCase
  scores : Table String Nat
  messages : List Message
  credentials : Table String Credential
  revocations : List String

section Queries

variable (st : Store)

def getOpenAbuseCasesCount (gaiaID : String) : Nat :=
  st.cases.countP fun c => toLower c.reportedIdentityHash = toLower gaiaID && c.status ≠ "closed"

/-- `GetAbuseScore`, of which only the score is read. -/
def getAbuseScore (senderPubKey : String) : Nat := (st.scores.get? senderPubKey).getD 0

def getMessageCountSince (senderGaiaID : String) (since : Nat) : Nat :=
  st.messages.countP fun m => toLower m.sender = toLower senderGaiaID && formatTime since ≤ m.createdAt

def getCredentialsBySubject (credentials : Table String Credential) (subject : String) : List (String × Credential) :=
  credentials.rows.filter fun r => toLower r.2.subjectIdentity = toLower subject

def createRoleCredential (credentials : Table String Credential) (id : String) (c : Credential) :
    Option (Table String Credential) :=
  if (credentials.get? id).isSome then none else some (credentials.insertOrIgnore id c)

end Queries

/-! ## Limits -/

/-- `seniorReviewerSeatLimit`: 35 of 100, rounded up. The float 0.35 is below the number, so that no product rounds above a
whole number that it should be. -/
def seniorReviewerSeatLimit (reviewerSeats : Nat) : Nat :=
  if reviewerSeats = 0 then 0 else min (max ((7 * reviewerSeats + 19) / 20) 1) reviewerSeats

def activeUsers (identities : Table String Identity) : Nat :=
  uniqueNodeUserCount (identities.rows.map fun r => ⟨r.2.userID, r.2.isActive⟩)

/-! ## A run -/

/-- The queries of a run that fail, by GaiaID or by credential. -/
structure Faults where
  identities : Bool
  openCases : String → Bool
  score : String → Bool
  messages : String → Bool
  credentials : String → Bool
  revocation : String → Bool
  credentialsAgain : String → Bool
  insert : String → Bool

/-- What the world provides for a run: the clock, the failures and the ids that are drawn. -/
structure Tick where
  now : Nat
  faults : Faults
  draw : String → UUID

/-- An identity that may get a seat. -/
structure Candidate where
  gaiaID : String
  createdAt : Nat
  msgCount : Nat
  deriving DecidableEq

/-- What the first loop collects. -/
structure Tally where
  candidates : List Candidate
  activeReviewers : List String
  activeSeniors : List String
  deriving DecidableEq

/-- What the second loop changes. -/
structure Seating where
  credentials : Table String Credential
  activeReviewers : List String
  activeSeniors : List String

def isReviewerRole (role : String) : Bool := role = "trusted_reviewer" || role = "senior_reviewer"

def Credential.lasts (c : Credential) (now : Nat) : Bool :=
  isReviewerRole c.role && (decide (now + 3 * 24 * hour < c.validUntil) && decide (c.validFrom < now))

def hasActiveReviewerCredential (creds : List (String × Credential)) (now : Nat) : Bool :=
  creds.any fun r => r.2.lasts now

section Run

variable (cm : CaseMap) (config : Bootstrap) (tick : Tick) (st : Store)

def isSkipped (gaiaID : String) : Bool :=
  gaiaID = "system" || (config.bootstrapGaiaID ≠ "" &&
    normalizeAndStripDomain cm gaiaID.toList = normalizeAndStripDomain cm config.bootstrapGaiaID.toList)

/-- The messages of an identity in good standing; `none` is one that is passed over. -/
def standing (gaiaID : String) : Option Nat :=
  if tick.faults.openCases gaiaID || 0 < getOpenAbuseCasesCount st gaiaID then none
  -- a score that cannot be read is none
  else if !tick.faults.score gaiaID && 0 < getAbuseScore st gaiaID then none
  else if tick.faults.messages gaiaID then none
  else some (getMessageCountSince st gaiaID (tick.now - 30 * 24 * hour))

def activeCredentials (gaiaID : String) : List (String × Credential) :=
  if tick.faults.credentials gaiaID then []
  else (getCredentialsBySubject st.credentials gaiaID).filter fun r =>
    r.2.lasts tick.now && !tick.faults.revocation r.1 && decide (r.1 ∉ st.revocations)

def evaluate (t : Tally) (row : String × Identity) : Tally :=
  if isSkipped cm config row.1 then t
  else
    match standing tick st row.1 with
    | none => t
    | some msgCount =>
      let creds := activeCredentials tick st row.1
      { candidates := if 5 ≤ msgCount then t.candidates ++ [⟨row.1, row.2.createdAt, msgCount⟩] else t.candidates
        activeReviewers := if creds.isEmpty then t.activeReviewers else t.activeReviewers.insert row.1
        activeSeniors :=
          if creds.any fun r => r.2.role = "senior_reviewer" then t.activeSeniors.insert row.1 else t.activeSeniors }

def evaluateAll : Tally := st.identities.rows.foldl (evaluate cm config tick st) ⟨[], [], []⟩

def Candidate.before (a b : Candidate) : Bool :=
  if a.msgCount = b.msgCount then a.createdAt < b.createdAt else b.msgCount < a.msgCount

/-- `sort.SliceStable`. -/
def ranked (candidates : List Candidate) : List Candidate := candidates.insertionSort fun a b => b.before a = false

def assign (seniorSeats : Nat) (s : Seating) (c : Candidate) : Seating :=
  if !tick.faults.credentialsAgain c.gaiaID &&
      hasActiveReviewerCredential (getCredentialsBySubject s.credentials c.gaiaID) tick.now then s
  else
    let isSenior := 15 ≤ c.msgCount ∧ s.activeSeniors.length < seniorSeats
    let targetRole := if isSenior then "senior_reviewer" else "trusted_reviewer"
    match if tick.faults.insert c.gaiaID then none
      else createRoleCredential s.credentials ("auto_rev_" ++ targetRole ++ "_" ++ (tick.draw c.gaiaID).text)
        ⟨targetRole, c.gaiaID, tick.now, tick.now + 14 * 24 * hour, "gaia:system:governance"⟩ with
    | none => s
    | some credentials =>
      ⟨credentials, s.activeReviewers.insert c.gaiaID,
        if isSenior then s.activeSeniors.insert c.gaiaID else s.activeSeniors⟩

def assignAll (reviewerSeats seniorSeats : Nat) : List Candidate → Seating → Seating
  | [], s => s
  | c :: cs, s =>
    if reviewerSeats ≤ s.activeReviewers.length then s
    else assignAll reviewerSeats seniorSeats cs (assign tick seniorSeats s c)

def seated : Seating :=
  let t := evaluateAll cm config tick st
  let reviewerSeats := reviewerSeatLimit (activeUsers st.identities)
  assignAll tick reviewerSeats (seniorReviewerSeatLimit reviewerSeats) (ranked t.candidates)
    ⟨st.credentials, t.activeReviewers, t.activeSeniors⟩

def runAutoGovernance : Store :=
  if tick.faults.identities then st else { st with credentials := (seated cm config tick st).credentials }

end Run

/-! ## The system -/

/-- What happens: a run, a revocation, or anything else to identities, cases, scores and messages. -/
inductive Event where
  | run (tick : Tick)
  | revoke (credentialID : String)
  | arrive (identities : Table String Identity) (cases : List ReportedCase) (scores : Table String Nat)
      (messages : List Message)

/-- The tables, with the time of the last run and the users it counted. -/
structure State where
  store : Store
  lastRun : Nat
  users : Nat

def step (cm : CaseMap) (config : Bootstrap) (s : State) : Event → State
  | .run tick =>
    if tick.faults.identities then s
    else ⟨runAutoGovernance cm config tick s.store, tick.now, activeUsers s.store.identities⟩
  | .revoke credentialID => { s with store := { s.store with revocations := credentialID :: s.store.revocations } }
  | .arrive identities cases scores messages =>
    { s with store := { s.store with identities := identities, cases := cases, scores := scores, messages := messages } }

def fresh (identities : Table String Identity) (cases : List ReportedCase) (scores : Table String Nat)
    (messages : List Message) : State :=
  ⟨⟨identities, cases, scores, messages, .empty, []⟩, 0, 0⟩

/-! ## Holders -/

def Credential.isValid (c : Credential) (roles : List String) (now : Nat) : Bool :=
  decide (c.issuer = "gaia:system:governance") && decide (c.role ∈ roles) &&
    (decide (c.validFrom ≤ now) && decide (now ≤ c.validUntil))

def holds (st : Store) (roles : List String) (now : Nat) (gaiaID : String) : Bool :=
  st.credentials.rows.any fun r =>
    decide (toLower r.2.subjectIdentity = toLower gaiaID) && r.2.isValid roles now && decide (r.1 ∉ st.revocations)

def holders (st : Store) (roles : List String) (now : Nat) : List String :=
  (st.identities.rows.map Prod.fst).filter fun gaiaID => holds st roles now gaiaID

def reviewerRoles : List String := ["trusted_reviewer", "senior_reviewer"]

def seniorRoles : List String := ["senior_reviewer"]

theorem holds_iff {st : Store} {roles : List String} {now : Nat} {gaiaID : String} :
    holds st roles now gaiaID = true ↔ ∃ id c, st.credentials.get? id = some c ∧
      toLower c.subjectIdentity = toLower gaiaID ∧ c.isValid roles now = true ∧ id ∉ st.revocations := by
  simp only [holds, List.any_eq_true, Prod.exists, Bool.and_eq_true, decide_eq_true_eq, Table.get?_eq_some, and_assoc]

theorem mem_holders {st : Store} {roles : List String} {now : Nat} {gaiaID : String} :
    gaiaID ∈ holders st roles now ↔ (st.identities.get? gaiaID).isSome = true ∧ holds st roles now gaiaID = true := by
  simp only [holders, List.mem_filter, List.mem_map, Prod.exists, exists_and_right, exists_eq_right,
    Option.isSome_iff_exists, Table.get?_eq_some]

theorem nodup_holders (st : Store) (roles : List String) (now : Nat) : (holders st roles now).Nodup :=
  st.identities.nodup.filter _

/-! ## The first loop -/

/-- What the loop has collected is without repetition, and every candidate is an identity in good standing. -/
structure Tallied (tick : Tick) (st : Store) (t : Tally) : Prop where
  reviewers : t.activeReviewers.Nodup
  seniors : t.activeSeniors.Nodup
  candidates : ∀ c ∈ t.candidates, ∃ identity, st.identities.get? c.gaiaID = some identity ∧
    standing tick st c.gaiaID = some c.msgCount

section Tally

variable {cm : CaseMap} {config : Bootstrap} {tick : Tick} {st : Store}

theorem tallied_evaluate {t : Tally} (h : Tallied tick st t) {row : String × Identity} (hrow : row ∈ st.identities.rows) :
    Tallied tick st (evaluate cm config tick st t row) := by
  unfold evaluate
  split
  · exact h
  split
  · exact h
  rename_i msgCount hstanding
  refine ⟨?_, ?_, fun c hc => ?_⟩
  · grind [h.reviewers]
  · grind [h.seniors]
  · dsimp only at hc
    split at hc
    · rcases List.mem_append.1 hc with hold | hnew
      · exact h.candidates c hold
      · rw [List.mem_singleton.1 hnew]
        exact ⟨row.2, Table.get?_eq_some.2 hrow, hstanding⟩
    · exact h.candidates c hc

theorem tallied_foldl (rows : List (String × Identity)) (hrows : ∀ row ∈ rows, row ∈ st.identities.rows) {t : Tally}
    (h : Tallied tick st t) : Tallied tick st (rows.foldl (evaluate cm config tick st) t) := by
  induction rows generalizing t <;> grind [tallied_evaluate]

theorem tallied_evaluateAll : Tallied tick st (evaluateAll cm config tick st) :=
  tallied_foldl _ (fun _ => id) ⟨List.nodup_nil, List.nodup_nil, fun _ h => by cases h⟩

end Tally

/-! ## The second loop -/

/-- What the loop makes of the seats: it fills them up to the limits, and who has a new credential has a seat. -/
structure Seated (tick : Tick) (reviewerSeats seniorSeats : Nat) (gaiaIDs : List String) (s s' : Seating) : Prop where
  reviewers : s.activeReviewers ⊆ s'.activeReviewers
  seniors : s.activeSeniors ⊆ s'.activeSeniors
  length_reviewers : s.activeReviewers.length ≤ s'.activeReviewers.length
  length_seniors : s.activeSeniors.length ≤ s'.activeSeniors.length
  reviewers_le : s'.activeReviewers.length ≤ max s.activeReviewers.length reviewerSeats
  seniors_le : s'.activeSeniors.length ≤ max s.activeSeniors.length seniorSeats
  issued : ∀ id c, s'.credentials.get? id = some c → s.credentials.get? id = some c ∨
    c.validFrom = tick.now ∧ c.subjectIdentity ∈ gaiaIDs ∧ c.subjectIdentity ∈ s'.activeReviewers ∧
      s.activeReviewers.length < reviewerSeats ∧
      (c.role = "senior_reviewer" → c.subjectIdentity ∈ s'.activeSeniors ∧ s.activeSeniors.length < seniorSeats)

section Seating

variable {tick : Tick} {reviewerSeats seniorSeats : Nat} {gaiaIDs : List String}

theorem Seated.refl (s : Seating) : Seated tick reviewerSeats seniorSeats gaiaIDs s s :=
  ⟨List.Subset.refl _, List.Subset.refl _, le_rfl, le_rfl, le_max_left _ _, le_max_left _ _, fun _ _ h => .inl h⟩

theorem Seated.trans {s s' s'' : Seating} (h : Seated tick reviewerSeats seniorSeats gaiaIDs s s')
    (h' : Seated tick reviewerSeats seniorSeats gaiaIDs s' s'') : Seated tick reviewerSeats seniorSeats gaiaIDs s s'' where
  reviewers := List.Subset.trans h.reviewers h'.reviewers
  seniors := List.Subset.trans h.seniors h'.seniors
  length_reviewers := h.length_reviewers.trans h'.length_reviewers
  length_seniors := h.length_seniors.trans h'.length_seniors
  reviewers_le := by have := h.reviewers_le; have := h'.reviewers_le; omega
  seniors_le := by have := h.seniors_le; have := h'.seniors_le; omega
  issued := by
    grind [h'.issued, h.issued, h'.reviewers, h'.seniors, h.length_reviewers.trans_lt, h.length_seniors.trans_lt]

theorem length_insert_le (l : List String) (a : String) :
    l.length ≤ (l.insert a).length ∧ (l.insert a).length ≤ l.length + 1 := by
  grind

theorem insert_if_free (l : List String) (a : String) (P : Prop) [Decidable P] (n : Nat) :
    l ⊆ (if P ∧ l.length < n then l.insert a else l) ∧ l.length ≤ (if P ∧ l.length < n then l.insert a else l).length ∧
      (if P ∧ l.length < n then l.insert a else l).length ≤ max l.length n ∧
      (P ∧ l.length < n → a ∈ if P ∧ l.length < n then l.insert a else l) := by
  grind

@[grind →]
theorem createRoleCredential_some {credentials credentials' : Table String Credential} {id : String} {c : Credential}
    (h : createRoleCredential credentials id c = some credentials') {id' : String} {c' : Credential}
    (hc' : credentials'.get? id' = some c') : credentials.get? id' = some c' ∨ c' = c := by
  unfold createRoleCredential at h
  split at h
  · cases h
  rename_i hfree
  rw [← Option.some.inj h, Table.get?_insertOrIgnore_free (by simpa using hfree)] at hc'
  split at hc'
  · exact .inr (Option.some.inj hc').symm
  exact .inl hc'

theorem seated_assign {s : Seating} {c : Candidate} (hc : c.gaiaID ∈ gaiaIDs)
    (hfree : s.activeReviewers.length < reviewerSeats) :
    Seated tick reviewerSeats seniorSeats gaiaIDs s (assign tick seniorSeats s c) := by
  unfold assign
  split
  · exact Seated.refl s
  dsimp only
  split
  · exact Seated.refl s
  rename_i credentials hsome
  obtain ⟨hle, hle'⟩ := length_insert_le s.activeReviewers c.gaiaID
  obtain ⟨hsub, hslength, hsle, hmem⟩ := insert_if_free s.activeSeniors c.gaiaID (15 ≤ c.msgCount) seniorSeats
  refine ⟨List.subset_insert _ _, hsub, hle, hslength, ?_, hsle, ?_⟩
  · dsimp only
    omega
  · intro id cred hcred
    rcases createRoleCredential_some (Option.ite_none_left_eq_some.1 hsome).2 hcred with hold | rfl
    · exact .inl hold
    · refine .inr ⟨rfl, hc, List.mem_insert_self, hfree, fun hrole => ?_⟩
      have hsenior : 15 ≤ c.msgCount ∧ s.activeSeniors.length < seniorSeats := by
        by_contra hnot
        simp [hnot] at hrole
      exact ⟨hmem hsenior, hsenior.2⟩

theorem seated_assignAll (cs : List Candidate) (hcs : ∀ c ∈ cs, c.gaiaID ∈ gaiaIDs) (s : Seating) :
    Seated tick reviewerSeats seniorSeats gaiaIDs s (assignAll tick reviewerSeats seniorSeats cs s) := by
  induction cs generalizing s with
  | nil => exact Seated.refl s
  | cons c cs ih =>
    unfold assignAll
    split
    · exact Seated.refl s
    rename_i hfree
    exact (seated_assign (hcs c List.mem_cons_self) (Nat.lt_of_not_le hfree)).trans
      (ih (fun c' hc' => hcs c' (List.mem_cons_of_mem _ hc')) _)

end Seating

/-! ## Seats -/

/-- The numbers of holders are within the limits for the users. -/
def WithinSeats (st : Store) (users now : Nat) : Prop :=
  (holders st reviewerRoles now).length ≤ reviewerSeatLimit users ∧
    (holders st seniorRoles now).length ≤ seniorReviewerSeatLimit (reviewerSeatLimit users)

instance (st : Store) (users now : Nat) : Decidable (WithinSeats st users now) := inferInstanceAs (Decidable (_ ∧ _))

/-- Every holder is counted. -/
def AllCounted (st : Store) (t : Tally) (now : Nat) : Prop :=
  (∀ gaiaID ∈ holders st reviewerRoles now, gaiaID ∈ t.activeReviewers) ∧
    ∀ gaiaID ∈ holders st seniorRoles now, gaiaID ∈ t.activeSeniors

instance (st : Store) (t : Tally) (now : Nat) : Decidable (AllCounted st t now) := inferInstanceAs (Decidable (_ ∧ _))

/-- A score that is stored under the key of an identity shows under its GaiaID. -/
def ScoresShow (st : Store) (tick : Tick) : Prop :=
  ∀ row ∈ st.identities.rows, 0 < getAbuseScore st row.2.identityKey →
    tick.faults.score row.1 = false ∧ 0 < getAbuseScore st row.1

instance (st : Store) (tick : Tick) : Decidable (ScoresShow st tick) :=
  inferInstanceAs (Decidable (∀ row ∈ st.identities.rows, _))

/-- GaiaIDs differ in more than their case. -/
def Distinguished (st : Store) : Prop := (st.identities.rows.map fun row => toLower row.1).Nodup

instance (st : Store) : Decidable (Distinguished st) := inferInstanceAs (Decidable (List.Nodup _))

/-- A run comes after those before it; the holders are within the limits that it goes by and are counted, and scores show.
An identity does not appear under a name that has a credential. -/
def Fair (cm : CaseMap) (config : Bootstrap) (s : State) : Event → Prop
  | .run tick => tick.faults.identities = false → s.lastRun ≤ tick.now ∧ Distinguished s.store ∧
      WithinSeats s.store (activeUsers s.store.identities) tick.now ∧
      AllCounted s.store (evaluateAll cm config tick s.store) tick.now ∧ ScoresShow s.store tick
  | .revoke _ => True
  | .arrive identities _ _ _ => ∀ row ∈ identities.rows, holds s.store reviewerRoles s.lastRun row.1 = true →
      (s.store.identities.get? row.1).isSome = true

instance (cm : CaseMap) (config : Bootstrap) (s : State) : ∀ e, Decidable (Fair cm config s e)
  | .run tick => inferInstanceAs (Decidable (tick.faults.identities = false → _))
  | .revoke _ => .isTrue trivial
  | .arrive identities _ _ _ => inferInstanceAs (Decidable (∀ row ∈ identities.rows, _))

section Seats

variable {cm : CaseMap} {config : Bootstrap} {tick : Tick} {st : Store}

theorem Distinguished.inj (h : Distinguished st) {a b : String} (ha : (st.identities.get? a).isSome)
    (hb : (st.identities.get? b).isSome) (heq : toLower a = toLower b) : a = b := by
  obtain ⟨x, hx⟩ := Option.isSome_iff_exists.1 ha
  obtain ⟨y, hy⟩ := Option.isSome_iff_exists.1 hb
  have hrow := List.inj_on_of_nodup_map h (Table.get?_eq_some.1 hx) (Table.get?_eq_some.1 hy) heq
  exact congrArg Prod.fst hrow

theorem length_holders_issued {roles : List String} {limit now : Nat} {counted final : List String}
    {credentials : Table String Credential} (hdist : Distinguished st) (hfinal : final.length ≤ max counted.length limit)
    (hold : (holders st roles now).length ≤ limit) (hcounted : ∀ g ∈ holders st roles now, g ∈ counted)
    (hsub : counted ⊆ final)
    (hissued : ∀ id c, credentials.get? id = some c → c.role ∈ roles → st.credentials.get? id = some c ∨
      (st.identities.get? c.subjectIdentity).isSome = true ∧ c.subjectIdentity ∈ final ∧ counted.length < limit) :
    (holders { st with credentials := credentials } roles now).length ≤ limit := by
  -- a holder held before, or has one of the free seats
  have hcases : ∀ g ∈ holders { st with credentials := credentials } roles now,
      g ∈ holders st roles now ∨ g ∈ final ∧ counted.length < limit := by
    grind [mem_holders, holds_iff, Credential.isValid, hdist.inj]
  have hnodup := nodup_holders { st with credentials := credentials } roles now
  by_cases hfree : counted.length < limit
  · have hall : holders { st with credentials := credentials } roles now ⊆ final := by
      grind
    have hle := (hnodup.subperm hall).length_le
    omega
  · have hall : holders { st with credentials := credentials } roles now ⊆ holders st roles now :=
      fun g hg => (hcases g hg).resolve_right fun h => hfree h.2
    exact ((hnodup.subperm hall).length_le).trans hold

theorem seated_run (cm : CaseMap) (config : Bootstrap) (tick : Tick) (st : Store) :
    Seated tick (reviewerSeatLimit (activeUsers st.identities))
      (seniorReviewerSeatLimit (reviewerSeatLimit (activeUsers st.identities)))
      ((evaluateAll cm config tick st).candidates.map Candidate.gaiaID)
      ⟨st.credentials, (evaluateAll cm config tick st).activeReviewers, (evaluateAll cm config tick st).activeSeniors⟩
      (seated cm config tick st) := by
  refine seated_assignAll _ (fun c hc => List.mem_map_of_mem ?_) _
  exact (List.perm_insertionSort _ _).mem_iff.1 hc

theorem issued_standing {id : String} {c : Credential} (hc : (seated cm config tick st).credentials.get? id = some c)
    (hnew : st.credentials.get? id ≠ some c) :
    ∃ identity msgCount, st.identities.get? c.subjectIdentity = some identity ∧
      standing tick st c.subjectIdentity = some msgCount := by
  rcases (seated_run cm config tick st).issued id c hc with hold | ⟨-, hid, -⟩
  · exact absurd hold hnew
  · obtain ⟨candidate, hcandidate, hgaia⟩ := List.mem_map.1 hid
    obtain ⟨identity, hidentity, hstanding⟩ := tallied_evaluateAll.candidates candidate hcandidate
    exact ⟨identity, candidate.msgCount, hgaia ▸ hidentity, hgaia ▸ hstanding⟩

theorem withinSeats_run (hdist : Distinguished st) (hwithin : WithinSeats st (activeUsers st.identities) tick.now)
    (hcounted : AllCounted st (evaluateAll cm config tick st) tick.now) :
    WithinSeats { st with credentials := (seated cm config tick st).credentials } (activeUsers st.identities) tick.now := by
  have hseated := seated_run cm config tick st
  have hknown : ∀ id c, (seated cm config tick st).credentials.get? id = some c → st.credentials.get? id ≠ some c →
      (st.identities.get? c.subjectIdentity).isSome = true := by
    grind [issued_standing]
  constructor
  · refine length_holders_issued hdist hseated.reviewers_le hwithin.1 hcounted.1 hseated.reviewers ?_
    intro id c hc _
    by_cases hold : st.credentials.get? id = some c
    · exact .inl hold
    grind [hseated.issued]
  · refine length_holders_issued hdist hseated.seniors_le hwithin.2 hcounted.2 hseated.seniors ?_
    intro id c hc hrole
    by_cases hold : st.credentials.get? id = some c
    · exact .inl hold
    · obtain ⟨-, -, -, -, hsenior⟩ := (hseated.issued id c hc).resolve_left hold
      exact .inr ⟨hknown id c hc hold, hsenior (List.mem_singleton.1 hrole)⟩

end Seats

/-! ## Runs -/

/-- Credentials begin with a run, and the holders are within the limits of the last one. -/
structure Inv (s : State) : Prop where
  begun : ∀ id c, s.store.credentials.get? id = some c → c.validFrom ≤ s.lastRun
  within : WithinSeats s.store s.users s.lastRun

section Runs

variable {cm : CaseMap} {config : Bootstrap}

theorem withinSeats_of_subset {st st' : Store} {users now now' : Nat} (h : WithinSeats st users now)
    (hsub : ∀ roles, roles ⊆ reviewerRoles → ∀ g ∈ holders st' roles now', g ∈ holders st roles now) :
    WithinSeats st' users now' := by
  have hle : ∀ roles, roles ⊆ reviewerRoles → (holders st' roles now').length ≤ (holders st roles now).length :=
    fun roles hroles => ((nodup_holders st' roles now').subperm (hsub roles hroles)).length_le
  exact ⟨(hle reviewerRoles (List.Subset.refl _)).trans h.1, (hle seniorRoles (by decide)).trans h.2⟩

theorem Inv.within_later {s : State} (h : Inv s) {now : Nat} (hnow : s.lastRun ≤ now) :
    WithinSeats s.store s.users now := by
  grind [withinSeats_of_subset, h.within, mem_holders, holds_iff, h.begun, Credential.isValid]

theorem inv_fresh (identities : Table String Identity) (cases : List ReportedCase) (scores : Table String Nat)
    (messages : List Message) : Inv (fresh identities cases scores messages) := by
  refine ⟨fun id c hc => (by cases hc), ?_⟩
  have hnone : ∀ roles n, (holders (fresh identities cases scores messages).store roles 0).length ≤ n := by
    intro roles n
    have hnil : holders (fresh identities cases scores messages).store roles 0 = [] := by
      rw [holders, List.filter_eq_nil_iff]
      intro g _
      simp [holds, fresh, Table.empty]
    rw [hnil]
    exact Nat.zero_le n
  exact ⟨hnone reviewerRoles _, hnone seniorRoles _⟩

theorem inv_step {s : State} {e : Event} (hs : Inv s) (hfair : Fair cm config s e) : Inv (step cm config s e) := by
  cases e with
  | run tick =>
    simp only [step]
    split
    · exact hs
    rename_i hanswered
    obtain ⟨hlater, hdist, hwithin, hcounted, -⟩ := hfair (by simpa using hanswered)
    rw [runAutoGovernance, if_neg hanswered]
    refine ⟨fun id c hc => ?_, withinSeats_run hdist hwithin hcounted⟩
    rcases (seated_run cm config tick s.store).issued id c hc with hold | ⟨hfrom, -⟩
    · exact (hs.begun id c hold).trans hlater
    · exact hfrom.le
  | revoke credentialID =>
    grind [withinSeats_of_subset, mem_holders, holds_iff, Inv, step]
  | arrive identities cases scores messages =>
    refine ⟨hs.begun, withinSeats_of_subset hs.within fun roles hroles g hg => ?_⟩
    obtain ⟨hin, hholds⟩ := mem_holders.1 hg
    obtain ⟨identity, hidentity⟩ := Option.isSome_iff_exists.1 hin
    obtain ⟨id, c, hc, hsubject, hvalid, hrevoked⟩ := holds_iff.1 hholds
    have hreviewer : holds s.store reviewerRoles s.lastRun g = true := by
      refine holds_iff.2 ⟨id, c, hc, hsubject, ?_, hrevoked⟩
      simp only [Credential.isValid, Bool.and_eq_true, decide_eq_true_eq] at hvalid ⊢
      exact ⟨⟨hvalid.1.1, hroles hvalid.1.2⟩, hvalid.2⟩
    exact mem_holders.2 ⟨hfair (g, identity) (Table.get?_eq_some.1 hidentity) hreviewer,
      holds_iff.2 ⟨id, c, hc, hsubject, hvalid, hrevoked⟩⟩

/-- In a run where every holder is counted and is within the limits, the seats are kept to at every later time, and
credentials go to identities without open cases and without a score under their key. -/
theorem seats_kept (cm : CaseMap) (config : Bootstrap) (identities : Table String Identity) (cases : List ReportedCase)
    (scores : Table String Nat) (messages : List Message) (es : List Event)
    (h : Along (step cm config) (Fair cm config) (fresh identities cases scores messages) es) :
    (∀ now, (exec (step cm config) (fresh identities cases scores messages) es).lastRun ≤ now →
      WithinSeats (exec (step cm config) (fresh identities cases scores messages) es).store
        (exec (step cm config) (fresh identities cases scores messages) es).users now) ∧
    ∀ tick st, st = (exec (step cm config) (fresh identities cases scores messages) es).store →
      Fair cm config (exec (step cm config) (fresh identities cases scores messages) es) (.run tick) →
      ∀ id c, (runAutoGovernance cm config tick st).credentials.get? id = some c → st.credentials.get? id ≠ some c →
        ∃ identity, st.identities.get? c.subjectIdentity = some identity ∧
          getOpenAbuseCasesCount st c.subjectIdentity = 0 ∧ getAbuseScore st identity.identityKey = 0 := by
  refine ⟨fun now => (h.invariant (fun _ _ => inv_step) (inv_fresh identities cases scores messages)).within_later, ?_⟩
  rintro tick st rfl hfair id c hc hnew
  rw [runAutoGovernance] at hc
  split at hc
  · exact absurd hc hnew
  rename_i hanswered
  obtain ⟨-, -, -, -, hshow⟩ := hfair (by simpa using hanswered)
  obtain ⟨identity, msgCount, hidentity, hstanding⟩ := issued_standing hc hnew
  refine ⟨identity, hidentity, ?_⟩
  unfold standing at hstanding
  split at hstanding
  · cases hstanding
  rename_i hopen
  split at hstanding
  · cases hstanding
  rename_i hscore
  simp only [Bool.or_eq_true, decide_eq_true_eq, not_or, Nat.not_lt, Nat.le_zero] at hopen
  refine ⟨hopen.2, ?_⟩
  by_contra hpos
  obtain ⟨hread, hgaia⟩ := hshow _ (Table.get?_eq_some.1 hidentity) (Nat.pos_of_ne_zero hpos)
  exact hscore (by simp [hread, hgaia])

end Runs

/-! ## Two users and one seat -/

def sampleMessages (sender : String) (day : String) (count : Nat) : List Message :=
  List.replicate count ⟨sender, day ++ "T12:00:00Z"⟩

def sampleTick (day : Nat) : Tick :=
  ⟨63918676800000000000 + day * 86400000000000,
    ⟨false, fun _ => false, fun _ => false, fun _ => false, fun _ => false, fun _ => false, fun _ => false, fun _ => false⟩,
    fun gaiaID => .ofByte (.ofNat (gaiaID.length + day))⟩

def sampleAnna : String × Identity := ("@anna:x", ⟨.ofByte 1, true, 1, "aa"⟩)

def sampleBob : String × Identity := ("@bob:x", ⟨.ofByte 2, true, 2, "bb"⟩)

def sampleIdentities : Table String Identity := ⟨[sampleAnna, sampleBob], by decide⟩

def sampleConfig : Bootstrap := ⟨"", []⟩

def sampleFirst : List Event := [.run (sampleTick 1)]

def sampleSecond : List Event :=
  [.arrive sampleIdentities [] (Table.empty.put "bb" 1) (sampleMessages "@bob:x" "2026-07-10" 20), .run (sampleTick 13)]

def sampleStart : State := fresh sampleIdentities [] .empty (sampleMessages "@anna:x" "2026-07-01" 15)

/-- The one seat is taken, by a senior. -/
theorem one_seat_taken :
    holders (exec (step .plain sampleConfig) sampleStart sampleFirst).store seniorRoles (sampleTick 2).now = ["@anna:x"] ∧
      WithinSeats (exec (step .plain sampleConfig) sampleStart sampleFirst).store 2 (sampleTick 2).now := by
  refine ⟨by decide +kernel, ?_⟩
  exact (seats_kept .plain sampleConfig sampleIdentities [] .empty (sampleMessages "@anna:x" "2026-07-01" 15) sampleFirst
    (by decide +kernel)).1 (sampleTick 2).now (by decide +kernel)

/-- A credential with two days left is not counted: the second run gives the seat away again, to an identity with a
score. -/
theorem one_seat_taken_twice :
    reviewerSeatLimit (exec (step .plain sampleConfig) sampleStart (sampleFirst ++ sampleSecond)).users = 1 ∧
      holders (exec (step .plain sampleConfig) sampleStart (sampleFirst ++ sampleSecond)).store seniorRoles
        (sampleTick 13).now = ["@anna:x", "@bob:x"] ∧
      getAbuseScore (exec (step .plain sampleConfig) sampleStart (sampleFirst ++ sampleSecond)).store
        sampleBob.2.identityKey = 1 := by
  decide +kernel

end GaiaCom.Governance.AutoGovernance
