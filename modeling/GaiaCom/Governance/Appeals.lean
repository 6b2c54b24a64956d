/-
What an accepted appeal undoes.

`ResolveAppeal` deletes actions by their target and lifts the suspension of the channel whose id is the target of the
case, whatever else holds there. Actions of other cases on the same channel go with it, and a suspension by an operator
is lifted too; actions of the case on a message or a user stay. It undoes exactly its own case just if the case's actions
are the channel actions on its target and nothing else keeps the channel suspended (`accepted_appeal_undoes_iff`).
-/
import GaiaCom.Governance.Service

namespace GaiaCom.Governance

open Lib Core GaiaCom.Store

/-! ## What applies to a channel -/

def AbuseCaseEvent.quarantines (e : AbuseCaseEvent) : Bool :=
  "Node Operator manually quarantined".toList.isPrefixOf e.details.toList

def AbuseCaseEvent.overrides (db : Database) (channelID : UUID) (e : AbuseCaseEvent) : Bool :=
  e.eventType = "operator_override" &&
    (db.cases.get? e.caseID).any fun c => parse c.reportedIdentityHash = some channelID

def operatorSuspends (db : Database) (channelID : UUID) : Bool :=
  (db.events.filter (AbuseCaseEvent.overrides db channelID)).getLast?.any AbuseCaseEvent.quarantines

def AbuseAction.targets (channelID : UUID) (a : AbuseAction) : Bool :=
  a.targetType = "channel" && parse a.targetID = some channelID

def concerns (db : Database) (caseID : String) (channelID : UUID) : Bool :=
  (db.cases.get? caseID).any fun c => parse c.reportedIdentityHash = some channelID

def selected (db : Database) (caseID : String) (a : AbuseAction) : Bool :=
  (db.cases.get? caseID).any fun c => a.targetType = "channel" && a.targetID = c.reportedIdentityHash

section Undone

variable (live : AbuseAction → Bool)

/-- Between two states exactly the case is undone: its actions are removed and no others, and a suspended channel that it
is about is reinstated just if no action that is left and no operator suspends it. Which actions still count, by their
type and expiry, is left open. -/
structure Undone (db db' : Database) (caseID : String) : Prop where
  removed : ∀ id action, db.actions.get? id = some action → (db'.actions.get? id = none ↔ action.caseID = caseID)
  kept : ∀ id action, db'.actions.get? id = some action → db.actions.get? id = some action
  lifted : ∀ channelID channel, concerns db caseID channelID = true → db.channels.get? channelID = some channel →
    channel.isSuspended = true →
    ((db'.channels.get? channelID).map PublicChannel.isSuspended = some false ↔
      (∀ id action, db'.actions.get? id = some action → live action = true → action.targets channelID = false) ∧
        operatorSuspends db' channelID = false)

/-- The actions of the case are the channel actions on its target, and nothing else suspends the channel. -/
structure Separate (db : Database) (caseID : String) : Prop where
  actions : ∀ id action, db.actions.get? id = some action → (selected db caseID action = true ↔ action.caseID = caseID)
  channel : ∀ channelID channel, concerns db caseID channelID = true → db.channels.get? channelID = some channel →
    channel.isSuspended = true → operatorSuspends db channelID = false ∧
      ∀ id action, db.actions.get? id = some action → live action = true → action.targets channelID = true →
        selected db caseID action = true

end Undone

/-! ## What the call does -/

/-- The actions and the channels are as they were, and so are the decisions of operators. -/
structure Kept (db db' : Database) : Prop where
  actions : db'.actions = db.actions
  channels : db'.channels = db.channels
  overrides : ∀ channelID, operatorSuspends db' channelID = operatorSuspends db channelID

/-- The channel that the case is about is reinstated. -/
structure Lifted (db db' : Database) (caseID : String) : Prop where
  channels : ∀ channelID, db'.channels.get? channelID = (db.channels.get? channelID).map fun channel =>
    if concerns db caseID channelID then ⟨false, ""⟩ else channel
  overrides : ∀ channelID, operatorSuspends db' channelID = operatorSuspends db channelID

/-- What a call has done when it is through. -/
structure Outcome (db db' : Database) (caseID : String) : Prop extends Lifted db db' caseID where
  actions : ∀ id, db'.actions.get? id = (db.actions.get? id).filter fun a => !selected db caseID a

/-- The actions with these ids are deleted. -/
def Deleted (db db' : Database) (gone : List String) : Prop :=
  ∀ id, db'.actions.get? id = (db.actions.get? id).filter fun _ => id ∉ gone

/-- What a call that began in a state has done when it comes to a stage. -/
def Progress (db : Database) (caseID : String) (db' : Database) : Stage → Prop
  | .closing c => Kept db db' ∧ db.cases.get? caseID = some c
  | .lifting c channelID =>
    Kept db db' ∧ db.cases.get? caseID = some c ∧ parse c.reportedIdentityHash = some channelID
  | .collecting c => Lifted db db' caseID ∧ db'.actions = db.actions ∧ db.cases.get? caseID = some c
  | .deleting ids => Lifted db db' caseID ∧ ∃ c gone, db.cases.get? caseID = some c ∧ Deleted db db' gone ∧
    gone ++ ids = getAbuseActions db "channel" c.reportedIdentityHash
  | .recording => Outcome db db' caseID
  | .succeeded => Outcome db db' caseID
  | .failed _ => True
  | _ => Kept db db' ∧ db'.cases = db.cases

section Lemmas

variable {cm : CaseMap} {config : Bootstrap} {tick : Tick} {db db' : Database} {caseID : String}

theorem Kept.refl (db : Database) : Kept db db := ⟨rfl, rfl, fun _ => rfl⟩

theorem attempt_of_not_fails (h : tick.fails = false) (statement : Option Database) :
    attempt tick db statement = statement.getD db := by
  unfold attempt
  rw [h]
  rfl

theorem operatorSuspends_updateAbuseCaseStatus (db : Database) (id status : String) (channelID : UUID) :
    operatorSuspends (updateAbuseCaseStatus db id status) channelID = operatorSuspends db channelID := by
  have hoverrides : ∀ e : AbuseCaseEvent,
      e.overrides (updateAbuseCaseStatus db id status) channelID = e.overrides db channelID := by
    intro e
    unfold AbuseCaseEvent.overrides updateAbuseCaseStatus
    rw [Table.get?_updateWhere]
    cases db.cases.get? e.caseID with
    | none => rfl
    | some c =>
      grind
  unfold operatorSuspends
  rw [List.filter_congr fun e _ => hoverrides e]
  rfl

theorem operatorSuspends_createAbuseCaseEvent {e : AbuseCaseEvent} (htype : e.eventType ≠ "operator_override")
    (channelID : UUID) : operatorSuspends ((createAbuseCaseEvent db e).getD db) channelID = operatorSuspends db channelID := by
  unfold createAbuseCaseEvent
  split
  · have hother : e.overrides db channelID = false := by simp [AbuseCaseEvent.overrides, htype]
    have hsame : ∀ e' : AbuseCaseEvent, e'.overrides { db with events := db.events ++ [e] } channelID =
        e'.overrides db channelID := fun _ => rfl
    simp only [operatorSuspends, Option.getD_some, List.filter_congr fun e' _ => hsame e', List.filter_append,
      List.filter_singleton, hother, cond_false, List.append_nil]
  · rfl

theorem Kept.outcome (h : Kept db db') (hcase : db.cases.get? caseID = none) : Outcome db db' caseID where
  channels channelID := by simp [concerns, hcase, h.channels]
  overrides := h.overrides
  actions id := by
    have hnone : ∀ a, selected db caseID a = false := fun a => by simp [selected, hcase]
    rw [h.actions]
    cases db.actions.get? id with
    | none => rfl
    | some a => grind

variable {c : AbuseCase}

theorem Kept.lifted (h : Kept db db') (hcase : db.cases.get? caseID = some c)
    (hparse : parse c.reportedIdentityHash = none) : Lifted db db' caseID where
  channels channelID := by simp [concerns, hcase, hparse, h.channels]
  overrides := h.overrides

theorem Kept.suspend (h : Kept db db') {channelID : UUID} (hcase : db.cases.get? caseID = some c)
    (hparse : parse c.reportedIdentityHash = some channelID) :
    Lifted db (suspendPublicChannel db' channelID false "") caseID where
  channels id := by
    grind [suspendPublicChannel, Table.get?_updateWhere, h.channels, concerns]
  overrides := h.overrides

theorem mem_getAbuseActions (hcase : db.cases.get? caseID = some c) {id : String} {a : AbuseAction}
    (ha : db.actions.get? id = some a) :
    id ∈ getAbuseActions db "channel" c.reportedIdentityHash ↔ selected db caseID a = true := by
  have hselected : selected db caseID a =
      (decide (a.targetType = "channel") && decide (a.targetID = c.reportedIdentityHash)) := by
    rw [selected, hcase, Option.any_some]
  rw [hselected, getAbuseActions, List.mem_map]
  constructor
  · rintro ⟨⟨id', a'⟩, hmem, rfl⟩
    obtain ⟨hrow, hok⟩ := List.mem_filter.1 hmem
    rw [Table.get?_eq_some.2 hrow] at ha
    cases ha
    exact hok
  · intro hok
    exact ⟨(id, a), List.mem_filter.2 ⟨Table.get?_eq_some.1 ha, hok⟩, rfl⟩

theorem deleted_nil (h : db'.actions = db.actions) : Deleted db db' [] := by
  intro id
  rw [h]
  cases db.actions.get? id with
  | none => rfl
  | some a => grind

theorem Deleted.snoc {gone : List String} (h : Deleted db db' gone) (id : String) :
    Deleted db (deleteAbuseAction db' id) (gone ++ [id]) := by
  intro key
  rw [deleteAbuseAction, Table.get?_deleteWhere, h key]
  cases db.actions.get? key with
  | none => rfl
  | some a =>
    grind

theorem progress_deletingStage (hlifted : Lifted db db' caseID) {gone ids : List String}
    (hcase : db.cases.get? caseID = some c) (hdeleted : Deleted db db' gone)
    (hids : gone ++ ids = getAbuseActions db "channel" c.reportedIdentityHash) :
    Progress db caseID db' (deletingStage ids) := by
  cases ids with
  | cons id ids => exact ⟨hlifted, c, gone, hcase, hdeleted, hids⟩
  | nil =>
    -- all selected actions are gone
    refine { hlifted with actions := fun id => ?_ }
    rw [hdeleted id]
    cases ha : db.actions.get? id with
    | none => rfl
    | some a =>
      grind [mem_getAbuseActions]

theorem progress_next {reviewerGaiaID decisionReason : String} {stage : Stage} (hfails : tick.fails = false)
    (h : Progress db caseID db' stage) :
    Progress db caseID (nextResolve cm config tick db' reviewerGaiaID caseID "accepted" decisionReason stage).1
      (nextResolve cm config tick db' reviewerGaiaID caseID "accepted" decisionReason stage).2 := by
  cases stage with
  | started | senior | pending =>
    grind [nextResolve, Progress]
  | deciding =>
    simp only [nextResolve, hfails, Bool.false_eq_true, if_false]
    exact ⟨⟨h.1.actions, h.1.channels, h.1.overrides⟩, h.2⟩
  | decided =>
    obtain ⟨hkept, hcases⟩ := h
    simp only [nextResolve, hfails, Bool.false_eq_true, if_false, hcases]
    split
    · rename_i hcase
      exact hkept.outcome hcase
    · rename_i c hcase
      exact ⟨hkept, hcase⟩
  | closing c =>
    obtain ⟨hkept, hcase⟩ := h
    have hclosed : Kept db (updateAbuseCaseStatus db' caseID "closed") :=
      ⟨hkept.actions, hkept.channels, fun channelID =>
        (operatorSuspends_updateAbuseCaseStatus db' caseID "closed" channelID).trans (hkept.overrides channelID)⟩
    grind [nextResolve, attempt_of_not_fails, hclosed.lifted, hclosed.actions, Progress]
  | lifting c channelID =>
    obtain ⟨hkept, hcase, hparse⟩ := h
    simp only [nextResolve, attempt_of_not_fails hfails, Option.getD_some]
    exact ⟨hkept.suspend hcase hparse, hkept.actions, hcase⟩
  | collecting c =>
    obtain ⟨hlifted, hactions, hcase⟩ := h
    have hread : getAbuseActions db' "channel" c.reportedIdentityHash =
        getAbuseActions db "channel" c.reportedIdentityHash := by
      rw [getAbuseActions, hactions, getAbuseActions]
    simp only [nextResolve, hfails, Bool.false_eq_true, if_false, hread]
    exact progress_deletingStage hlifted hcase (deleted_nil hactions) rfl
  | deleting ids =>
    cases ids with
    | nil => exact h
    | cons id ids =>
      obtain ⟨hlifted, c, gone, hcase, hdeleted, hids⟩ := h
      have hlifted' : Lifted db (deleteAbuseAction db' id) caseID := ⟨hlifted.channels, hlifted.overrides⟩
      simp only [nextResolve, attempt_of_not_fails hfails, Option.getD_some]
      refine progress_deletingStage hlifted' hcase (hdeleted.snoc id) ?_
      rw [List.append_assoc, List.singleton_append, hids]
  | recording =>
    simp only [nextResolve, attempt_of_not_fails hfails]
    refine ⟨⟨fun channelID => ?_, fun channelID => ?_⟩, fun id => ?_⟩
    · grind [h.channels, createAbuseCaseEvent]
    · grind [operatorSuspends_createAbuseCaseEvent, h.overrides]
    grind [h.actions, createAbuseCaseEvent]
  | _ => exact h

theorem Outcome.undone_iff (h : Outcome db db' caseID) (live : AbuseAction → Bool) :
    Undone live db db' caseID ↔ Separate live db caseID := by
  have hgone : ∀ id action, db.actions.get? id = some action →
      (db'.actions.get? id = none ↔ selected db caseID action = true) := by
    grind [h.actions]
  have hstays : ∀ id action, db'.actions.get? id = some action ↔
      db.actions.get? id = some action ∧ selected db caseID action = false := by
    grind [h.actions, Option.filter_eq_some_iff]
  have hlifted : ∀ channelID channel, concerns db caseID channelID = true → db.channels.get? channelID = some channel →
      (db'.channels.get? channelID).map PublicChannel.isSuspended = some false := by
    grind [h.channels]
  constructor
  · intro hundone
    grind [hundone.removed, hundone.lifted, h.overrides, Separate]
  · intro hseparate
    refine ⟨fun id action haction => (hgone id action haction).trans (hseparate.actions id action haction),
      fun id action haction => ((hstays id action).1 haction).1, ?_⟩
    intro channelID channel hconcerns hchannel hsuspended
    obtain ⟨hoperator, hselected⟩ := hseparate.channel channelID channel hconcerns hchannel hsuspended
    refine iff_of_true (hlifted channelID channel hconcerns hchannel) ⟨fun id action haction hlive => ?_, ?_⟩
    · obtain ⟨hbefore, hnot⟩ := (hstays id action).1 haction
      by_contra htargets
      rw [hselected id action hbefore hlive (Bool.not_eq_false _ ▸ htargets)] at hnot
      cases hnot
    · exact (h.overrides channelID).trans hoperator

end Lemmas

/-! ## The call -/

/-- `ResolveAppeal` with the decision to accept, alone. -/
def acceptAppeal (cm : CaseMap) (config : Bootstrap) (db : Database) (reviewerGaiaID caseID decisionReason : String)
    (ticks : List Tick) : Database × Call :=
  Pool.alone (next cm config) db (.begin (.resolveAppeal reviewerGaiaID caseID "accepted" decisionReason)) ticks

def sampleTick (id : UInt8) : Tick := ⟨62135596800 * second, .ofByte id, false, ⟨some [], fun _ => .none⟩, some []⟩

def sampleBootstrap : Bootstrap := ⟨"@o:x", []⟩

def sampleTarget : String := (UUID.ofByte 5).text

def sampleCase : AbuseCase := ⟨"report", "spam", "high", sampleTarget, "", "appealed"⟩

def sampleAction (caseID : String) : AbuseAction := ⟨caseID, "channel", sampleTarget, "suspend", "high", "", "", ""⟩

def sampleAppeal : AbuseAppeal := ⟨"c", "@u:x", "", "", "", "pending", "", "", ""⟩

def sampleDatabase (actions : Table String AbuseAction) : Database where
  cases := ⟨[("c", sampleCase), ("d", sampleCase)], by decide⟩
  reviews := Table.empty
  actions := actions
  appeals := ⟨[("p", sampleAppeal)], by decide⟩
  events := []
  channels := ⟨[(.ofByte 5, ⟨true, "spam"⟩)], by decide⟩
  mu := false

def sampleOwn : Database := sampleDatabase ⟨[("a", sampleAction "c")], by decide⟩

def sampleShared : Database :=
  sampleDatabase ⟨[("a", sampleAction "c"), ("b", sampleAction "d"),
    ("e", ⟨"c", "message", "m", "warn", "high", "", "", ""⟩)], by decide⟩

def sampleOverridden : Database :=
  (Pool.alone (next .plain sampleBootstrap) sampleShared
    (.begin (.nodeOperatorSuspendChannel "@o:x" sampleTarget true "")) (List.replicate 4 (sampleTick 9))).1

def sampleAccepted (db : Database) (steps : Nat) : Database × Call :=
  acceptAppeal .plain sampleBootstrap db "@o:x" "c" "" (List.replicate steps (sampleTick 9))

/-! ## The theorem -/

/-- In every state: a successful call whose statements do not fail undoes exactly its own case if and only if the actions
of the case are the channel actions on its target and neither another action nor an operator suspends the channel. -/
theorem accepted_appeal_undoes_iff (cm : CaseMap) (config : Bootstrap) (live : AbuseAction → Bool) (db : Database)
    (reviewerGaiaID caseID decisionReason : String) (ticks : List Tick) (hticks : ∀ tick ∈ ticks, tick.fails = false)
    (hdone : (acceptAppeal cm config db reviewerGaiaID caseID decisionReason ticks).2.stage = .succeeded) :
    Undone live db (acceptAppeal cm config db reviewerGaiaID caseID decisionReason ticks).1 caseID ↔
      Separate live db caseID := by
  have hprogress : (acceptAppeal cm config db reviewerGaiaID caseID decisionReason ticks).2.request =
        .resolveAppeal reviewerGaiaID caseID "accepted" decisionReason ∧
      Progress db caseID (acceptAppeal cm config db reviewerGaiaID caseID decisionReason ticks).1
        (acceptAppeal cm config db reviewerGaiaID caseID decisionReason ticks).2.stage := by
    refine Pool.alone_invariant_of_mem (I := fun db' (call : Call) =>
      call.request = .resolveAppeal reviewerGaiaID caseID "accepted" decisionReason ∧ Progress db caseID db' call.stage)
      ?_ ⟨rfl, Kept.refl db, rfl⟩
    rintro tick htick db' ⟨request, stage⟩ ⟨rfl, hstage⟩
    exact ⟨rfl, progress_next (hticks tick htick) hstage⟩
  rw [hdone] at hprogress
  exact Outcome.undone_iff hprogress.2 live

theorem own_case_undone :
    (sampleAccepted sampleOwn 10).2.stage = .succeeded ∧
      Undone (fun _ => true) sampleOwn (sampleAccepted sampleOwn 10).1 "c" := by
  have hdone : (sampleAccepted sampleOwn 10).2.stage = .succeeded := by decide +kernel
  have hselected : selected sampleOwn "c" (sampleAction "c") = true := by decide +kernel
  have hactions : ∀ id action, sampleOwn.actions.get? id = some action → action = sampleAction "c" := by
    intro id action haction
    exact (Prod.mk.inj (List.mem_singleton.1 (Table.get?_eq_some.1 haction))).2
  refine ⟨hdone, (accepted_appeal_undoes_iff .plain sampleBootstrap (fun _ => true) sampleOwn "@o:x" "c" "" _
    (fun tick htick => (List.eq_of_mem_replicate htick) ▸ rfl) hdone).2 ⟨?_, ?_⟩⟩
  · intro id action haction
    rw [hactions id action haction]
    exact iff_of_true hselected rfl
  · intro channelID channel _ _ _
    refine ⟨rfl, fun id action haction _ _ => ?_⟩
    rw [hactions id action haction]
    exact hselected

theorem other_case_undone :
    (sampleAccepted sampleOverridden 11).2.stage = .succeeded ∧
    sampleOverridden.actions.get? "b" = some (sampleAction "d") ∧
    (sampleAccepted sampleOverridden 11).1.actions.rows.map Prod.fst = ["e"] ∧
    (sampleAccepted sampleOverridden 11).1.channels.rows = [(.ofByte 5, ⟨false, ""⟩)] ∧
    operatorSuspends (sampleAccepted sampleOverridden 11).1 (.ofByte 5) = true ∧
    ¬ Undone (fun _ => true) sampleOverridden (sampleAccepted sampleOverridden 11).1 "c" := by
  simp only [← and_assoc]
  refine (and_iff_left_of_imp ?_).2 (by decide +kernel)
  rintro ⟨⟨⟨⟨-, hbefore⟩, hleft⟩, -⟩, -⟩ hundone
  -- the action of the other case is gone
  have hgone : (sampleAccepted sampleOverridden 11).1.actions.get? "b" = none := by
    refine Table.get?_eq_none.2 fun action haction => ?_
    have hmem : "b" ∈ (sampleAccepted sampleOverridden 11).1.actions.rows.map Prod.fst :=
      List.mem_map.2 ⟨_, haction, rfl⟩
    rw [hleft] at hmem
    exact absurd hmem (by decide)
  exact absurd ((hundone.removed "b" _ hbefore).1 hgone) (by decide)

end GaiaCom.Governance
