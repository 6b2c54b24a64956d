/-
Appeals and who decides them, whatever calls run side by side.

`AppealCase` looks for an appeal before it inserts one, and `ResolveAppeal` looks at the appeal and at the reviews before
it updates the appeal; neither holds a lock, and a query that fails counts as one that found nothing. Two appeals get in
side by side, two reviewers decide the same appeal, a decision to leave the appeal "pending" is followed by another one,
and a reviewer may still review the case once their decision stands. If what was looked for is not there at the moment
of the write either, a case has one appeal, one decision and no review by who decided it (`appeals_decided_once`).
-/
import GaiaCom.Governance.Appeals
import GaiaCom.Governance.Effects

namespace GaiaCom.Governance

open Lib Core GaiaCom.Store

/-! ## Decisions -/

/-- What `ResolveAppeal` writes into the appeal of a case. -/
structure Decision where
  caseID : String
  decidedBy : String
  status : String
  reason : String
  deriving DecidableEq

def Stage.isPastDecision : Stage → Bool
  | .decided => true
  | .closing _ => true
  | .lifting _ _ => true
  | .collecting _ => true
  | .deleting _ => true
  | .recording => true
  | .succeeded => true
  | _ => false

def Call.decision : Call → Option Decision
  | ⟨.resolveAppeal reviewerGaiaID caseID status decisionReason, stage⟩ =>
    if stage.isPastDecision then some ⟨caseID, reviewerGaiaID, status, decisionReason⟩ else none
  | _ => none

/-- The appeal shows the decision. -/
structure AbuseAppeal.Shows (a : AbuseAppeal) (d : Decision) : Prop where
  caseID : a.caseID = d.caseID
  decidedBy : a.decidedBy = d.decidedBy
  status : a.status = d.status
  reason : a.decisionReason = d.reason

/-- No case has two appeals. -/
def OneAppeal (db : Database) : Prop :=
  ∀ id id' a a', db.appeals.get? id = some a → db.appeals.get? id' = some a' → a.caseID = a'.caseID → id = id'

/-- A case has one appeal, the appeal at most one decision, which it shows, and who decided it has not reviewed the
case. -/
structure Impartial (p : System) : Prop where
  appeal : OneAppeal p.shared
  once : ∀ n m call call' d d', p.calls.get? n = some call → p.calls.get? m = some call' → call.decision = some d →
    call'.decision = some d' → d.caseID = d'.caseID → n = m
  shown : ∀ n call d, p.calls.get? n = some call → call.decision = some d →
    ∃ id a, p.shared.appeals.get? id = some a ∧ a.Shows d
  impartial : ∀ n call d, p.calls.get? n = some call → call.decision = some d → ∀ id r, p.shared.reviews.get? id = some r →
    r.caseID = d.caseID → r.reviewerIdentity ≠ d.decidedBy

/-! ## The condition -/

def decidedCase (p : System) (caseID : String) : Bool :=
  p.calls.rows.any fun row => row.2.decision.any fun d => d.caseID = caseID

def decidedBy (p : System) (caseID reviewerGaiaID : String) : Bool :=
  p.calls.rows.any fun row => row.2.decision.any fun d => d.caseID = caseID && d.decidedBy = reviewerGaiaID

/-- An appeal is inserted if there is none, the appeal is updated if it is not decided and the reviewer has not reviewed
the case, and a review is inserted unless the reviewer has decided the appeal. -/
def Call.fair (p : System) (tick : Tick) : Call → Bool
  | ⟨.appealCase _ caseID _ _, .submitting⟩ => tick.fails || (getAbuseAppeal p.shared caseID).isNone
  | ⟨.resolveAppeal reviewerGaiaID caseID _ _, .deciding⟩ => tick.fails ||
    (!decidedCase p caseID && !(getAbuseReviews p.shared caseID).any fun r => r.reviewerIdentity = reviewerGaiaID)
  | ⟨.reviewCase reviewerGaiaID caseID _ _ _ _, .voting _⟩ => tick.fails || !decidedBy p caseID reviewerGaiaID
  | _ => true

def Fair (p : System) : Event → Prop
  | .start _ _ => True
  | .advance n tick => ∀ call ∈ p.calls.get? n, call.fair p tick = true

instance (p : System) : DecidablePred (Fair p)
  | .start _ _ => .isTrue trivial
  | .advance n tick => inferInstanceAs (Decidable (∀ call ∈ p.calls.get? n, call.fair p tick = true))

/-! ## Steps -/

def Call.resolves (caseID : String) : Call → Bool
  | ⟨.resolveAppeal _ id _ _, .pending⟩ => id = caseID
  | ⟨.resolveAppeal _ id _ _, .deciding⟩ => id = caseID
  | _ => false

/-- The case has an appeal. -/
def HasAppeal (db : Database) (caseID : String) : Prop := ∃ id a, db.appeals.get? id = some a ∧ a.caseID = caseID

section Steps

variable {cm : CaseMap} {config : Bootstrap} {tick : Tick} {db : Database} {call : Call} {t : Tables} {p : System} {n : Nat}

variable {caseID : String}

theorem getAbuseAppeal_isSome : (getAbuseAppeal db caseID).isSome = true ↔ HasAppeal db caseID := by
  rw [getAbuseAppeal, List.find?_isSome]
  constructor
  · rintro ⟨a, ha, hcase⟩
    obtain ⟨⟨id, a'⟩, hrow, rfl⟩ := List.mem_map.1 ha
    exact ⟨id, a', Table.get?_eq_some.2 hrow, of_decide_eq_true hcase⟩
  grind [HasAppeal]

theorem Effect.appeals (h : Effect cm tick db call t) :
    t.appeals = db.appeals ∨
    (∃ senderGaiaID caseID reason statement, call = ⟨.appealCase senderGaiaID caseID reason statement, .submitting⟩ ∧
      tick.fails = false ∧ db.appeals.get? ("app_" ++ tick.id.text) = none ∧ t.appeals =
        db.appeals.insertOrIgnore ("app_" ++ tick.id.text) (newAppeal tick.now senderGaiaID caseID reason statement)) ∨
    ∃ reviewerGaiaID caseID status decisionReason,
      call = ⟨.resolveAppeal reviewerGaiaID caseID status decisionReason, .deciding⟩ ∧ tick.fails = false ∧
      t.appeals = (updateAbuseAppealStatus db tick.now caseID status decisionReason reviewerGaiaID).appeals := by
  cases h with
  | appeal hfails hfree => grind
  | decide hfails => grind [Database.tables]
  | _ => exact .inl rfl

theorem get?_updateAbuseAppealStatus (db : Database) (now : Nat) (caseID status decisionReason reviewerGaiaID id : String) :
    (updateAbuseAppealStatus db now caseID status decisionReason reviewerGaiaID).appeals.get? id =
      (db.appeals.get? id).map fun a => if a.caseID = caseID then { a with
        status := status, decisionReason := decisionReason, decidedBy := reviewerGaiaID, decidedAt := formatTime now }
      else a := by
  rw [updateAbuseAppealStatus, Table.get?_updateWhere]
  simp only [decide_eq_true_eq]

theorem hasAppeal_next (h : HasAppeal db caseID) : HasAppeal (next cm config tick db call).1 caseID := by
  obtain ⟨id, a, ha, hcase⟩ := h
  have happeals := (next_effect cm config tick db call).appeals
  simp only [Database.tables] at happeals
  rcases happeals with hsame | ⟨_, _, _, _, -, -, hfree, hinsert⟩ | ⟨_, caseID', _, _, -, -, hupdate⟩
  · exact ⟨id, a, hsame ▸ ha, hcase⟩
  · refine ⟨id, a, ?_, hcase⟩
    have hne : id ≠ "app_" ++ tick.id.text := by
      rintro rfl
      rw [ha] at hfree
      cases hfree
    rw [hinsert, Table.get?_insertOrIgnore, if_neg hne, ha]
  · refine ⟨id, _, by rw [hupdate, get?_updateAbuseAppealStatus, ha, Option.map_some], ?_⟩
    split
    · exact hcase
    exact hcase

variable {d : Decision}

theorem decision_eq_some {reviewerGaiaID status decisionReason : String} {stage : Stage} :
    Call.decision ⟨.resolveAppeal reviewerGaiaID caseID status decisionReason, stage⟩ = some d ↔
      stage.isPastDecision = true ∧ d = ⟨caseID, reviewerGaiaID, status, decisionReason⟩ := by
  simp only [Call.decision, Option.ite_none_right_eq_some, Option.some.injEq, @eq_comm _ d]

theorem decision_next (h : (next cm config tick db call).2.decision = some d) :
    call.decision = some d ∨ call = ⟨.resolveAppeal d.decidedBy d.caseID d.status d.reason, .deciding⟩ ∧ tick.fails = false := by
  obtain ⟨request, stage⟩ := call
  cases request with
  | resolveAppeal reviewerGaiaID caseID status decisionReason =>
    obtain ⟨hpast, rfl⟩ := decision_eq_some.1 h
    rw [decision_eq_some]
    revert hpast
    simp only [nextStage]
    fun_cases nextResolve <;> grind [Stage.isPastDecision]
  | _ => cases h

theorem deletingStage_cases (ids : List String) :
    deletingStage ids = .recording ∨ ∃ ids', deletingStage ids = .deleting ids' := by
  cases ids <;> simp [deletingStage]

theorem decision_stays (h : call.decision = some d) : (next cm config tick db call).2.decision = some d := by
  obtain ⟨request, stage⟩ := call
  cases request with
  | resolveAppeal reviewerGaiaID caseID status decisionReason =>
    obtain ⟨hpast, rfl⟩ := decision_eq_some.1 h
    refine decision_eq_some.2 ⟨?_, rfl⟩
    revert hpast
    simp only [nextStage]
    fun_cases nextResolve <;> grind [Stage.isPastDecision, deletingStage_cases]
  | _ => cases h

theorem resolves_next (h : (next cm config tick db call).2.resolves caseID = true) :
    call.resolves caseID = true ∨ HasAppeal db caseID := by
  obtain ⟨request, stage⟩ := call
  cases request with
  | resolveAppeal reviewerGaiaID id status decisionReason =>
    simp only [next, nextStage] at h
    generalize hnext : (nextResolve cm config tick db reviewerGaiaID id status decisionReason stage).2 = stage' at h
    cases stage' with
    | pending | deciding =>
      obtain rfl : id = caseID := of_decide_eq_true h
      revert hnext
      fun_cases nextResolve <;> grind [Call.resolves, deletingStage_cases, getAbuseAppeal_isSome]
    | _ => cases h
  | _ => cases h

theorem decidedCase_of_decision {call : Call} (hcall : p.calls.get? n = some call)
    (hd : call.decision = some d) : decidedCase p d.caseID = true := by
  grind [decidedCase]

theorem decidedBy_of_decision {call : Call} (hcall : p.calls.get? n = some call)
    (hd : call.decision = some d) : decidedBy p d.caseID d.decidedBy = true := by
  grind [decidedBy]

end Steps

/-! ## Runs -/

/-- A call that is about to decide has an appeal to decide. -/
structure Inv (p : System) : Prop extends Impartial p where
  found : ∀ n call caseID, p.calls.get? n = some call → call.resolves caseID = true → HasAppeal p.shared caseID

section Runs

variable {cm : CaseMap} {config : Bootstrap} {tick : Tick} {call : Call} {p : System} {n : Nat}

variable {d : Decision} {id : String}

theorem appeal_kept (hok : call.fair p tick = true) {m : Nat} {other : Call}
    (hother : p.calls.get? m = some other) (hd : other.decision = some d) {a : AbuseAppeal}
    (ha : p.shared.appeals.get? id = some a) (hcase : a.caseID = d.caseID) :
    (next cm config tick p.shared call).1.appeals.get? id = some a := by
  have happeals := (next_effect cm config tick p.shared call).appeals
  simp only [Database.tables] at happeals
  rcases happeals with hsame | ⟨_, _, _, _, -, -, hfree, hinsert⟩ | ⟨_, caseID, _, _, rfl, hfails, hupdate⟩
  · rw [hsame, ha]
  · have hne : id ≠ "app_" ++ tick.id.text := by
      rintro rfl
      rw [ha] at hfree
      cases hfree
    rw [hinsert, Table.get?_insertOrIgnore, if_neg hne, ha]
  · -- the update is about another case
    have hne : d.caseID ≠ caseID := by
      rintro rfl
      rw [Call.fair, hfails, Bool.false_or, decidedCase_of_decision hother hd] at hok
      cases hok
    rw [hupdate, get?_updateAbuseAppealStatus, ha, Option.map_some, hcase, if_neg hne]

theorem oneAppeal_next (h : OneAppeal p.shared) (hok : call.fair p tick = true) :
    OneAppeal (next cm config tick p.shared call).1 := by
  have happeals := (next_effect cm config tick p.shared call).appeals
  simp only [Database.tables] at happeals
  intro id id' a a' ha ha' hcase
  rcases happeals with hsame | ⟨_, caseID, _, _, rfl, hfails, hfree, hinsert⟩ | ⟨_, caseID, _, _, -, -, hupdate⟩
  · rw [hsame] at ha ha'
    exact h id id' a a' ha ha' hcase
  · -- there was no appeal of the case
    rw [Call.fair, hfails, Bool.false_or, Option.isNone_iff_eq_none] at hok
    have hnone : ∀ id a, p.shared.appeals.get? id = some a → a.caseID ≠ caseID := by
      intro id a ha hcase
      have hsome := getAbuseAppeal_isSome.2 ⟨id, a, ha, hcase⟩
      rw [hok] at hsome
      cases hsome
    rw [hinsert, Table.get?_insertOrIgnore_free hfree] at ha ha'
    split at ha
    · rename_i hid
      split at ha'
      · rename_i hid'
        rw [hid, hid']
      · obtain rfl := Option.some.inj ha
        exact absurd hcase.symm (hnone id' a' ha')
    · split at ha'
      · obtain rfl := Option.some.inj ha'
        exact absurd hcase (hnone id a ha)
      · exact h id id' a a' ha ha' hcase
  · rw [hupdate, get?_updateAbuseAppealStatus, Option.map_eq_some_iff] at ha ha'
    obtain ⟨b, hb, rfl⟩ := ha
    obtain ⟨b', hb', rfl⟩ := ha'
    refine h id id' b b' hb hb' ?_
    rwa [apply_ite AbuseAppeal.caseID, apply_ite AbuseAppeal.caseID, ite_self, ite_self] at hcase

theorem shown_next (h : Inv p) (hcall : p.calls.get? n = some call) (hok : call.fair p tick = true)
    (hd : (next cm config tick p.shared call).2.decision = some d) :
    ∃ id a, (next cm config tick p.shared call).1.appeals.get? id = some a ∧ a.Shows d := by
  rcases decision_next hd with hold | ⟨rfl, hfails⟩
  · obtain ⟨id, a, ha, hshows⟩ := h.shown n call d hcall hold
    exact ⟨id, a, appeal_kept hok hcall hold ha hshows.caseID, hshows⟩
  · obtain ⟨id, a, ha, hcase⟩ := h.found n _ d.caseID hcall (decide_eq_true rfl)
    have hnext : (next cm config tick p.shared
          ⟨.resolveAppeal d.decidedBy d.caseID d.status d.reason, .deciding⟩).1.appeals =
        (updateAbuseAppealStatus p.shared tick.now d.caseID d.status d.reason d.decidedBy).appeals := by
      simp only [next, nextStage, nextResolve, hfails, Bool.false_eq_true, if_false]
    refine ⟨id, _, by rw [hnext, get?_updateAbuseAppealStatus, ha, Option.map_some], ?_⟩
    grind [AbuseAppeal.Shows]

theorem impartial_kept (h : Inv p) (hok : call.fair p tick = true) {m : Nat} {other : Call}
    (hother : p.calls.get? m = some other) (hd : other.decision = some d) {r : AbuseReview}
    (hr : (next cm config tick p.shared call).1.reviews.get? id = some r) (hcase : r.caseID = d.caseID) :
    r.reviewerIdentity ≠ d.decidedBy := by
  have hreviews := (next_effect cm config tick p.shared call).reviews
  simp only [Database.tables] at hreviews
  rcases hreviews with hsame | ⟨reviewerGaiaID, caseID, _, _, _, _, _, rfl, hfails, hfree, hinsert⟩
  · grind [h.impartial]
  · rw [hinsert, Table.get?_insertOrIgnore_free hfree] at hr
    split at hr
    · obtain rfl := Option.some.inj hr
      -- it is the review that is inserted
      intro hreviewer
      obtain rfl : caseID = d.caseID := hcase
      obtain rfl : reviewerGaiaID = d.decidedBy := hreviewer
      rw [Call.fair, hfails, Bool.false_or, decidedBy_of_decision hother hd] at hok
      cases hok
    grind [h.impartial]

theorem impartial_next (h : Inv p) (hcall : p.calls.get? n = some call) (hok : call.fair p tick = true)
    (hd : (next cm config tick p.shared call).2.decision = some d) {r : AbuseReview}
    (hr : (next cm config tick p.shared call).1.reviews.get? id = some r) (hcase : r.caseID = d.caseID) :
    r.reviewerIdentity ≠ d.decidedBy := by
  rcases decision_next hd with hold | ⟨rfl, hfails⟩
  · exact impartial_kept h hok hcall hold hr hcase
  · have hsame : (next cm config tick p.shared
        ⟨.resolveAppeal d.decidedBy d.caseID d.status d.reason, .deciding⟩).1.reviews = p.shared.reviews := by
      simp only [next, nextStage, nextResolve, hfails, Bool.false_eq_true, if_false, updateAbuseAppealStatus]
    rw [hsame] at hr
    rw [Call.fair, hfails, Bool.false_or, Bool.and_eq_true, Bool.not_eq_true', Bool.not_eq_true', List.any_eq_false] at hok
    grind [mem_getAbuseReviews]

theorem inv_start (h : Inv p) (request : Request) : Inv (step cm config p (.start n request)) := by
  have hbegin : (Call.begin request).decision = none ∧ ∀ caseID, (Call.begin request).resolves caseID = false := by
    cases request <;> exact ⟨rfl, fun _ => rfl⟩
  have hold : ∀ m call d, (step cm config p (.start n request)).calls.get? m = some call → call.decision = some d →
      p.calls.get? m = some call := by
    intro m call d hm hd
    rcases Pool.get?_start hm with hm | rfl <;> grind
  refine ⟨⟨h.appeal, ?_, ?_, ?_⟩, ?_⟩
  · grind [h.once]
  · intro m call d hm hd
    exact h.shown m call d (hold m call d hm hd) hd
  · intro m call d hm hd
    exact h.impartial m call d (hold m call d hm hd) hd
  · intro m call caseID hm hresolves
    rcases Pool.get?_start hm with hm | rfl
    · exact h.found m call caseID hm hresolves
    grind

theorem inv_advance (h : Inv p) (hcall : p.calls.get? n = some call) (hok : call.fair p tick = true) :
    Inv (step cm config p (.advance n tick)) := by
  have honce : ∀ m k call call' caseID, (step cm config p (.advance n tick)).calls.get? m = some call →
      (step cm config p (.advance n tick)).calls.get? k = some call' →
      (∃ d, call.decision = some d ∧ d.caseID = caseID) → (∃ d, call'.decision = some d ∧ d.caseID = caseID) → m = k := by
    refine Pool.distinct_step (fun _ _ he => by cases he) ?_ ?_
    · rintro m tick' other ⟨⟩ hm caseID ⟨d, hd, rfl⟩
      obtain rfl := Option.some.inj (hcall.symm.trans hm)
      rcases decision_next hd with hold | ⟨rfl, hfails⟩
      · exact .inl ⟨d, hold, rfl⟩
      · right
        rintro k other - hk ⟨d', hd', hcase⟩
        rw [Call.fair, hfails, Bool.false_or, ← hcase, decidedCase_of_decision hk hd'] at hok
        cases hok
    grind [h.once]
  refine ⟨⟨?_, fun m k call call' d d' hm hk hd hd' hcase => honce m k call call' d.caseID hm hk ⟨d, hd, rfl⟩
    ⟨d', hd', hcase.symm⟩, ?_, ?_⟩, ?_⟩
  · rw [step, Pool.step_advance hcall]
    exact oneAppeal_next h.appeal hok
  · rw [step, Pool.step_advance hcall]
    intro m other d hm hd
    rw [Table.get?_put] at hm
    split at hm
    · grind [shown_next]
    obtain ⟨id, a, ha, hshows⟩ := h.shown m other d hm hd
    exact ⟨id, a, appeal_kept hok hm hd ha hshows.caseID, hshows⟩
  · rw [step, Pool.step_advance hcall]
    grind [impartial_next, impartial_kept]
  · rw [step, Pool.step_advance hcall]
    grind [hasAppeal_next, resolves_next, h.found]

theorem inv_step {e : Event} (h : Inv p) (hok : Fair p e) : Inv (step cm config p e) := by
  refine Pool.step_cases h (fun n request _ => inv_start h request) ?_
  rintro n tick call rfl hcall
  exact inv_advance h hcall (hok call hcall)

theorem inv_fresh {db : Database} (h : OneAppeal db) : Inv (fresh db) := by
  have hnone : ∀ n call, (fresh db).calls.get? n ≠ some call := by
    grind [fresh]
  exact ⟨⟨h, fun n _ call _ _ _ hn => absurd hn (hnone n call), fun n call _ hn => absurd hn (hnone n call),
    fun n call _ hn => absurd hn (hnone n call)⟩, fun n call _ hn => absurd hn (hnone n call)⟩

theorem decided_step {e : Event} (hok : Fair p e) {a : AbuseAppeal} (hcase : a.caseID = d.caseID)
    (h : (∃ call, p.calls.get? n = some call ∧ call.decision = some d) ∧ p.shared.appeals.get? id = some a) :
    (∃ call, (step cm config p e).calls.get? n = some call ∧ call.decision = some d) ∧
      (step cm config p e).shared.appeals.get? id = some a := by
  obtain ⟨⟨call, hcall, hd⟩, ha⟩ := h
  refine Pool.step_cases (P := fun q => (∃ call, q.calls.get? n = some call ∧ Call.decision call = some d) ∧
    (Pool.shared q).appeals.get? id = some a) ⟨⟨call, hcall, hd⟩, ha⟩ ?_ ?_
  · exact fun m request _ => ⟨⟨call, Pool.get?_start_of_some request hcall, hd⟩, ha⟩
  · rintro m tick other rfl hother
    rw [Pool.step_advance hother]
    refine ⟨?_, appeal_kept (hok other hother) hcall hd ha hcase⟩
    simp only [Table.get?_put]
    split
    · rename_i hnm
      obtain rfl := Option.some.inj (hcall.symm.trans (hnm ▸ hother))
      exact ⟨_, rfl, decision_stays hd⟩
    · exact ⟨call, hcall, hd⟩

end Runs

def sampleOperators : Bootstrap := ⟨"@o:x", ["@q:x"]⟩

def sampleOpen : Database := { sampleOwn with appeals := Table.empty }

def sampleSteps (n : Nat) (id : UInt8) (steps : Nat) : List Event := List.replicate steps (.advance n (sampleTick id))

def sampleDecided : List Event :=
  .start 0 (.appealCase "@u:x" "c" "" "") :: sampleSteps 0 1 5 ++
    .start 1 (.resolveAppeal "@o:x" "c" "accepted" "") :: sampleSteps 1 2 4

def sampleReviewed : List Event :=
  .start 2 (.reviewCase "@q:x" "c" "spam" "high" "warn" "") :: sampleSteps 2 3 4

def sampleOverlap : List Event :=
  [.start 0 (.appealCase "@u:x" "c" "" ""), .start 1 (.appealCase "@v:x" "c" "" "")] ++
    sampleSteps 0 1 2 ++ sampleSteps 1 2 2 ++ sampleSteps 0 1 1 ++ sampleSteps 1 2 1 ++
  [.start 2 (.resolveAppeal "@o:x" "c" "accepted" ""), .start 3 (.resolveAppeal "@q:x" "c" "rejected" "")] ++
    sampleSteps 2 3 3 ++ sampleSteps 3 3 3 ++ sampleSteps 2 3 1 ++ sampleSteps 3 3 1 ++
  .start 4 (.reviewCase "@q:x" "c" "spam" "high" "warn" "") :: sampleSteps 4 4 4

end GaiaCom.Governance
