/-
The flood limit of gsn/service.go: an identity may post and comment five times in thirty seconds.
`CountGsnPostsCommentsInDuration` counts rows whose timestamp, the text that the client chose, does not sort before the cutoff
that the server prints. The limit is kept by calls whose timestamp does not sort before the time of their arrival; a text
with an offset, a fraction or one minute of delay may sort before the cutoff at once, and then nothing is counted.
-/
import GaiaCom.Gsn.Service
import GaiaCom.Lib.Run

namespace GaiaCom.Gsn

open Lib Core Store

/-! ## Calls -/

/-- A call that the limit is for. -/
inductive Publication where
  | post (userID identityID : UUID) (body imageAttachment signature repostOfPostID timestamp : String)
  | comment (identityID : UUID) (postID body signature timestamp : String)

def Publication.identityID : Publication → UUID
  | .post _ identityID _ _ _ _ _ | .comment identityID _ _ _ _ => identityID

def Publication.timestamp : Publication → String
  | .post _ _ _ _ _ _ timestamp | .comment _ _ _ _ timestamp => timestamp

def Publication.perform (n : Node) : Publication → Except GsnError (Tables × Broadcast)
  | .post userID identityID body imageAttachment signature repostOfPostID timestamp =>
    createPost n userID identityID body imageAttachment signature repostOfPostID timestamp
  | .comment identityID postID body signature timestamp => createComment n identityID postID body signature timestamp

/-- A call and the node at its arrival, but for the tables, which are those that the calls before have left. -/
structure Arrival where
  node : Node
  publication : Publication

/-- A call that has succeeded. -/
structure Success where
  gaiaID : String
  timestamp : String
  arrival : Nat
  deriving DecidableEq

/-- The tables, and the calls that have succeeded, the latest first. -/
structure FloodState where
  tables : Tables
  log : List Success

def succeed (tables : Tables) (a : Arrival) : Option (Tables × Success) := do
  let n : Node := { a.node with tables := tables }
  let (tables', _) ← (a.publication.perform n).toOption
  let ident ← n.queries.findIdentityByID a.publication.identityID
  return (tables', ⟨ident.gaiaID, a.publication.timestamp, n.now⟩)

def publish (s : FloodState) (a : Arrival) : FloodState :=
  match succeed s.tables a with
  | none => s
  | some (tables, success) => ⟨tables, success :: s.log⟩

/-- The calls of one identity that have succeeded and arrived in the thirty seconds from `start` on. -/
def inWindow (log : List Success) (gaiaID : String) (start : Nat) : Nat :=
  log.countP fun c => c.gaiaID = gaiaID && start ≤ c.arrival && c.arrival ≤ start + 30 * second

/-- The timestamp does not sort before the time of arrival, as `Format` prints it in a year of four digits. -/
def Success.Current (c : Success) : Prop := Lib.Calendar.year (dayOf c.arrival) ≤ 9999 ∧ rfc3339 c.arrival ≤ c.timestamp

instance (c : Success) : Decidable c.Current := inferInstanceAs (Decidable (_ ∧ _))

/-- If the call succeeds and is one of the identity, its timestamp is current. -/
def CurrentFor (gaiaID : String) (s : FloodState) (a : Arrival) : Prop :=
  ∀ r ∈ succeed s.tables a, r.2.gaiaID = gaiaID → r.2.Current

instance (gaiaID : String) (s : FloodState) (a : Arrival) : Decidable (CurrentFor gaiaID s a) :=
  inferInstanceAs (Decidable (∀ r ∈ succeed s.tables a, r.2.gaiaID = gaiaID → r.2.Current))

/-! ## Cutoffs -/

theorem rfc3339_mono {a b : Nat} (h : a ≤ b) (hb : Lib.Calendar.year (dayOf b) ≤ 9999) : rfc3339 a ≤ rfc3339 b := by
  have hle : a / second * second ≤ b / second * second := Nat.mul_le_mul_right _ (Nat.div_le_div_right h)
  have hyear : Lib.Calendar.year (dayOf (b / second * second)) ≤ 9999 :=
    (year_le_of_le (Nat.div_mul_le_self b second)).trans hb
  unfold rfc3339
  rcases hle.eq_or_lt with heq | hlt
  · rw [heq]
  · by_cases hzero : a / second * second = 0
    · rw [hzero]
      exact not_lt.1 fun hlt' => List.not_lt_nil _ (String.lt_iff_toList_lt.1 hlt')
    · refine (formatTime_le_of_lt ⟨hzero, (year_le_of_le hle).trans hyear⟩ ⟨by omega, hyear⟩ hlt).2 fun hcut => ?_
      -- two whole seconds of which one is the other cut short are the same
      have hsecond := (cutOf_second hcut).1
      have hwhole : ∀ t, secondOf (t / second * second) = t / second := fun t => Nat.mul_div_cancel _ (by decide)
      grind

theorem Success.Current.counted {c : Success} (hc : c.Current) {now : Nat} (h : now ≤ c.arrival + 30 * second) :
    rfc3339 (now - 30 * second) ≤ c.timestamp :=
  (rfc3339_mono (Nat.sub_le_of_le_add h) hc.1).trans hc.2

/-! ## Rows -/

def rowsSince (tables : Tables) (gaiaID since : String) : Nat :=
  (tables.posts.countWhere fun _ post => post.gaiaID = gaiaID && since ≤ post.timestamp) +
    tables.comments.countWhere fun _ comment => comment.gaiaID = gaiaID && since ≤ comment.timestamp

variable {tables tables' : Tables}

theorem rowsSince_createGsnPost {post : GsnPost} {u : Unit}
    (h : createGsnPost tables post = (tables', .ok u)) (gaiaID since : String) : rowsSince tables' gaiaID since =
      rowsSince tables gaiaID since + if post.gaiaID = gaiaID ∧ since ≤ post.timestamp then 1 else 0 := by
  grind [createGsnPost, rowsSince, Table.countWhere_insertOrIgnore, Option.not_isSome_iff_eq_none]

theorem rowsSince_createGsnComment {comment : GsnComment} {u : Unit}
    (h : createGsnComment tables comment = (tables', .ok u)) (gaiaID since : String) : rowsSince tables' gaiaID since =
      rowsSince tables gaiaID since + if comment.gaiaID = gaiaID ∧ since ≤ comment.timestamp then 1 else 0 := by
  grind [createGsnComment, rowsSince, Table.countWhere_insertOrIgnore, Option.not_isSome_iff_eq_none]

/-! ## A call that succeeds -/

/-- A call succeeds when fewer than five rows are counted, and leaves one more row, with its own timestamp. -/
structure Admitted (tables : Tables) (a : Arrival) (tables' : Tables) (c : Success) : Prop where
  arrival : c.arrival = a.node.now
  below : rowsSince tables c.gaiaID (rfc3339 (c.arrival - 30 * second)) < 5
  row : ∀ gaiaID since, rowsSince tables' gaiaID since =
    rowsSince tables gaiaID since + if c.gaiaID = gaiaID ∧ since ≤ c.timestamp then 1 else 0

theorem perform_admitted {n : Node} {p : Publication} {b : Broadcast} {ident : IdentityRow}
    (h : p.perform n = .ok (tables, b)) (hident : n.queries.findIdentityByID p.identityID = some ident) :
    rowsSince n.tables ident.gaiaID (rfc3339 (n.now - 30 * second)) < 5 ∧
      ∀ gaiaID since, rowsSince tables gaiaID since =
        rowsSince n.tables gaiaID since + if ident.gaiaID = gaiaID ∧ since ≤ p.timestamp then 1 else 0 := by
  cases p <;> simp only [Publication.perform, createPost, createComment, bind_eq_ok, required_ok] at h
  all_goals
    obtain ⟨ident', hident', -, -, _, hcount, -, -, -, -, ⟨tables', u⟩, hrow, hret⟩ := h
    obtain rfl : ident' = ident := Option.some.inj (hident'.symm.trans hident)
    cases hret
    refine ⟨of_decide_eq_true (ensure_ok.1 hcount), ?_⟩
  case post => exact rowsSince_createGsnPost (executed_ok.1 hrow)
  case comment => exact rowsSince_createGsnComment (executed_ok.1 hrow)

theorem succeed_admitted {a : Arrival} {c : Success} (h : succeed tables a = some (tables', c)) :
    Admitted tables a tables' c := by
  simp only [succeed, Option.bind_eq_bind, Option.bind_eq_some_iff] at h
  obtain ⟨⟨left, b⟩, hperform, ident, hident, hret⟩ := h
  obtain ⟨rfl, rfl⟩ := Prod.mk.inj (Option.some.inj hret)
  have hok : a.publication.perform { a.node with tables := tables } = .ok (left, b) := by
    cases hp : a.publication.perform { a.node with tables := tables } with
    | error err => rw [hp] at hperform; cases hperform
    | ok r => rw [hp] at hperform; cases hperform; rfl
  obtain ⟨hbelow, hrow⟩ := perform_admitted hok hident
  exact ⟨rfl, hbelow, hrow⟩

/-! ## Runs -/

/-- Every call that has succeeded has left its row; those of the identity have current timestamps and are at most five in
every window. -/
structure FloodInv (gaiaID : String) (s : FloodState) : Prop where
  counted : ∀ since, (s.log.countP fun c => c.gaiaID = gaiaID && since ≤ c.timestamp) ≤ rowsSince s.tables gaiaID since
  current : ∀ c ∈ s.log, c.gaiaID = gaiaID → c.Current
  within : ∀ start, inWindow s.log gaiaID start ≤ 5

theorem FloodInv.inWindow_le {gaiaID : String} {s : FloodState} (hs : FloodInv gaiaID s) {now start : Nat}
    (hlast : now ≤ start + 30 * second) :
    inWindow s.log gaiaID start ≤ rowsSince s.tables gaiaID (rfc3339 (now - 30 * second)) := by
  refine le_trans (List.countP_mono_left fun c hc hwin => ?_) (hs.counted _)
  simp only [Bool.and_eq_true, decide_eq_true_eq] at hwin ⊢
  exact ⟨hwin.1.1, (hs.current c hc hwin.1.1).counted (by omega)⟩

theorem floodInv_publish {gaiaID : String} {s : FloodState} {a : Arrival} (hs : FloodInv gaiaID s)
    (ha : CurrentFor gaiaID s a) : FloodInv gaiaID (publish s a) := by
  unfold publish
  cases hsucceed : succeed s.tables a with
  | none => exact hs
  | some r =>
    obtain ⟨tables, c⟩ := r
    have hadmitted := succeed_admitted hsucceed
    refine ⟨fun since => ?_, fun d hd hid => ?_, fun start => ?_⟩
    · have hcounted := hs.counted since
      rw [hadmitted.row, List.countP_cons]
      simp only [Bool.and_eq_true, decide_eq_true_eq]
      omega
    · rcases List.mem_cons.1 hd with rfl | hd
      · exact ha _ hsucceed hid
      · exact hs.current d hd hid
    · rw [inWindow, List.countP_cons]
      split
      · rename_i hnew
        simp only [Bool.and_eq_true, decide_eq_true_eq] at hnew
        obtain ⟨⟨rfl, -⟩, hlast⟩ := hnew
        exact Nat.lt_of_le_of_lt (hs.inWindow_le hlast) hadmitted.below
      · exact hs.within start

/-- An identity whose calls carry timestamps that do not sort before their arrival publishes at most five times in every
thirty seconds, whatever the other identities do and whatever the clock does. -/
theorem flood_limit_kept (tables : Tables) (gaiaID : String) (arrivals : List Arrival)
    (hcurrent : Along publish (CurrentFor gaiaID) ⟨tables, []⟩ arrivals) (start : Nat) :
    inWindow (exec publish ⟨tables, []⟩ arrivals).log gaiaID start ≤ 5 := by
  have hbegin : FloodInv gaiaID ⟨tables, []⟩ :=
    ⟨fun _ => Nat.zero_le _, fun _ h => absurd h List.not_mem_nil, fun _ => Nat.zero_le _⟩
  exact (hcurrent.invariant (P := FloodInv gaiaID) (fun _ _ hs ha => floodInv_publish hs ha) hbegin).within start

def floodNode (id : UInt8) : Node where
  serverName := "a.de"
  tables := ⟨.empty, .empty, .empty, .empty, .empty, .empty⟩
  queries := {
    findIdentityByID _ := some ⟨.nil, "@eve:a.de", "", ""⟩
    findIdentityByGaiaID _ := some ⟨.nil, "@eve:a.de", "", String.ofList ("\x7b\"public_keys\":\x7b\"identity\":\"".toList ++
      List.replicate 32 'k' ++ "\"\x7d\x7d".toList)⟩
    findIdentitiesByUserID _ := none
    getCredentialsBySubject _ := none
    isUnrevoked _ := false
    getGsnProfile _ := none
    markFilePublic _ _ := false
    updateIdentityPublicProfile _ _ _ := none
    buildTrustPassportSummary _ := ⟨false, false, false, ""⟩
    findAllFederationServers := none }
  now := 63919886400 * second
  rowID := .ofByte id
  pduID _ := .nil
  pduTime _ := 0
  verify _ _ _ := true
  isWebsite _ := false

def sixPosts (timestamp : String) : List Arrival :=
  [1, 2, 3, 4, 5, 6].map fun id =>
    ⟨floodNode id, .post .nil .nil "" "" (String.ofList (List.replicate 86 'A' ++ ['=', '='])) "" timestamp⟩

theorem sixth_post_rejected :
    (exec publish ⟨(floodNode 0).tables, []⟩ (sixPosts "2026-07-17T12:00:00Z")).log.length = 5 ∧
      inWindow (exec publish ⟨(floodNode 0).tables, []⟩ (sixPosts "2026-07-17T12:00:00Z")).log "@eve:a.de"
        (63919886400 * second) ≤ 5 := by
  refine And.imp_right (fun hrun =>
    flood_limit_kept (floodNode 0).tables "@eve:a.de" (sixPosts "2026-07-17T12:00:00Z") hrun _) ?_
  decide +kernel

/-- The same instant with an offset of one hour sorts an hour before the cutoff: no post is ever counted. -/
theorem sixth_post_accepted :
    parseRFC3339 "2026-07-17T11:00:00-01:00".toList = some (63919886400 * second) ∧
      inWindow (exec publish ⟨(floodNode 0).tables, []⟩ (sixPosts "2026-07-17T11:00:00-01:00")).log "@eve:a.de"
        (63919886400 * second) = 6 := by
  decide +kernel

end GaiaCom.Gsn
