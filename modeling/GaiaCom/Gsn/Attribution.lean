/-
Whose social content is whose, over all runs of local operations (gsn/service.go) and of PDUs that peers of other domains send
(`ValidateIncomingPDUBusiness` and `persistIncomingPDU`, federation_service.go). The receiver compares actor and sender up to
case and stores what the payload says: its node id is compared with nothing, and two spellings of one actor are two keys. A
local post bears the name of the node, whatever the domain of the identity, which `CreateIdentity` does not look at. The
signature of a PDU is left out: it only says which peer has sent it.
-/
import GaiaCom.Gsn.Agreement
import GaiaCom.Lib.Run

namespace GaiaCom.Gsn

open Lib Core Store Federation
open Federation.Wire (belongsTo)

/-! ## Events -/

/-- A local operation, with the node but for its tables, or a PDU of an authenticated peer. -/
inductive SocialEvent where
  | local (n : Node) (op : Operation)
  | incoming (now : Nat) (peerDomain : String) (p : Pdu)

/-- The checks of a PDU that a peer of another domain sends: those of `ValidateAuthenticatedPayload` on one PDU and
`ValidateIncomingPDUBusiness`. -/
def accepts (serverName : String) (now : Nat) (peerDomain : String) (s : Tables) (p : Pdu) : Bool :=
  !equalFold peerDomain serverName && (validateIncomingPDUShape now p).toOption.isSome && belongsTo p.sender peerDomain &&
    belongsTo p.destination serverName && (validateIncomingPDUBusiness s p).toOption.isSome

/-- One event of the node `serverName`; what fails changes nothing. -/
def socialStep (serverName : String) (s : Tables) : SocialEvent → Tables
  | .local n op =>
    match perform { n with serverName := serverName, tables := s } op with
    | .ok (s', _) => s'
    | .error _ => s
  | .incoming now peerDomain p =>
    if accepts serverName now peerDomain s p then (persistIncomingGsnPDU now s p).1 else s

/-- `ListGsnPostsByNode`. -/
def listGsnPostsByNode (s : Tables) (nodeID : String) : List GsnPost :=
  ((s.posts.rows.map Prod.snd).filter fun post => post.nodeID = nodeID).mergeSort fun a b => b.timestamp ≤ a.timestamp

/-! ## Attribution -/

/-- The node of the post is the domain of its author. -/
def GsnPost.AtHome (post : GsnPost) : Prop := post.nodeID = afterColon post.gaiaID

instance (post : GsnPost) : Decidable post.AtHome := inferInstanceAs (Decidable (_ = _))

/-- The one spelling of an actor: ASCII without upper-case letters, as `CreateIdentity` stores it. -/
def Canonical (actor : String) : Prop := (∀ c ∈ actor.toList, c.toNat < 128) ∧ toLower actor = actor

-- written out: the characters of the text are checked, not all that there are
instance (actor : String) : Decidable (Canonical actor) :=
  @instDecidableAnd _ _ (List.decidableBAll _ actor.toList) (inferInstanceAs (Decidable (toLower actor = actor)))

/-- At most one reaction of an actor for each post and emoji, up to case. -/
def UniqueReactions (s : Tables) : Prop :=
  ∀ r r' u u', s.reactions.get? r = some u → s.reactions.get? r' = some u' → r.postID = r'.postID → r.emoji = r'.emoji →
    equalFold r.gaiaID r'.gaiaID = true → r = r'

/-- At most one follow of an actor for each target, up to case. -/
def UniqueFollows (s : Tables) : Prop :=
  ∀ f f' t t', s.follows.get? f = some t → s.follows.get? f' = some t' → f.following = f'.following →
    equalFold f.follower f'.follower = true → f = f'

/-- Posts are at home and actors have their one spelling. -/
structure Attributed (s : Tables) : Prop where
  posts : ∀ id post, s.posts.get? id = some post → post.AtHome
  reactions : ∀ r u, s.reactions.get? r = some u → Canonical r.gaiaID
  follows : ∀ f t, s.follows.get? f = some t → Canonical f.follower

/-- Local authors are of this node, local actors have their one spelling, and so do the actors of payloads, whose posts are
at home. -/
def Honest (serverName : String) : SocialEvent → Prop
  | .local n (.createPost _ identityID ..) =>
    ∀ ident ∈ n.queries.findIdentityByID identityID, afterColon ident.gaiaID = serverName
  | .local n (.reactToPost identityID ..) | .local n (.followUser identityID ..) =>
    ∀ ident ∈ n.queries.findIdentityByID identityID, Canonical ident.gaiaID
  | .local _ _ => True
  | .incoming _ _ p =>
    (kind p.type = some .post → ∀ post ∈ decodePost p.payload, post.AtHome) ∧
      (kind p.type = some .reaction → ∀ r ∈ decodeReaction p.payload, Canonical r.1.gaiaID) ∧
      (kind p.type = some .follow → ∀ f ∈ decodeFollow p.payload, Canonical f.follower)

instance (serverName : String) : ∀ e, Decidable (Honest serverName e)
  | .local n (.createPost _ identityID ..) => inferInstanceAs (Decidable (∀ ident ∈ n.queries.findIdentityByID identityID, _))
  | .local n (.reactToPost identityID ..) => inferInstanceAs (Decidable (∀ ident ∈ n.queries.findIdentityByID identityID, _))
  | .local n (.followUser identityID ..) => inferInstanceAs (Decidable (∀ ident ∈ n.queries.findIdentityByID identityID, _))
  | .local _ (.deletePost ..) | .local _ (.createComment ..) | .local _ (.deleteComment ..)
  | .local _ (.unfollowUser ..) | .local _ (.updateProfile ..) => .isTrue trivial
  | .incoming _ _ p => inferInstanceAs (Decidable ((kind p.type = some .post → ∀ post ∈ decodePost p.payload, post.AtHome) ∧
      (kind p.type = some .reaction → ∀ r ∈ decodeReaction p.payload, Canonical r.1.gaiaID) ∧
      (kind p.type = some .follow → ∀ f ∈ decodeFollow p.payload, Canonical f.follower)))

theorem Canonical.map_foldChar {actor : String} (h : Canonical actor) : actor.toList.map foldChar = actor.toList := by
  have hfold : ∀ c ∈ actor.toList, foldChar c = lowerChar c := by
    intro c hc
    have hascii := h.1 c hc
    rw [foldChar, if_neg (by omega), if_neg (by omega)]
  have hlower := congrArg String.toList h.2
  rw [toLower, String.toList_ofList] at hlower
  rw [List.map_congr_left hfold, hlower]

theorem Canonical.eq_of_equalFold {a b : String} (ha : Canonical a) (hb : Canonical b) (h : equalFold a b = true) : a = b := by
  rw [equalFold, beq_iff_eq, ha.map_foldChar, hb.map_foldChar] at h
  exact String.toList_injective h

namespace Attributed

variable {s : Tables}

theorem uniqueReactions (h : Attributed s) : UniqueReactions s := by
  intro r r' u u' hr hr' hpost hemoji hfold
  have hactor := (h.reactions r u hr).eq_of_equalFold (h.reactions r' u' hr') hfold
  cases r
  cases r'
  simp_all

theorem uniqueFollows (h : Attributed s) : UniqueFollows s := by
  intro f f' t t' hf hf' hfollowing hfold
  have hactor := (h.follows f t hf).eq_of_equalFold (h.follows f' t' hf') hfold
  cases f
  cases f'
  simp_all

theorem listed (h : Attributed s) {nodeID : String} {post : GsnPost} (hpost : post ∈ listGsnPostsByNode s nodeID) :
    afterColon post.gaiaID = nodeID := by
  rw [listGsnPostsByNode, List.mem_mergeSort, List.mem_filter, List.mem_map] at hpost
  obtain ⟨⟨⟨id, post'⟩, hrow, rfl⟩, hnode⟩ := hpost
  exact (h.posts id post' (Table.get?_eq_some.2 hrow)).symm.trans (of_decide_eq_true hnode)

end Attributed

/-! ## What a step adds -/

/-- Every post, reaction and follow is an old one or one that may be added. -/
structure Added (post : GsnPost → Prop) (reactor follower : String → Prop) (s s' : Tables) : Prop where
  posts : ∀ id p, s'.posts.get? id = some p → s.posts.get? id = some p ∨ post p
  reactions : ∀ r u, s'.reactions.get? r = some u → s.reactions.get? r = some u ∨ reactor r.gaiaID
  follows : ∀ f t, s'.follows.get? f = some t → s.follows.get? f = some t ∨ follower f.follower

variable {s : Tables}

theorem Added.attributed {s' : Tables} (h : Added GsnPost.AtHome Canonical Canonical s s') (hs : Attributed s) :
    Attributed s' := by
  refine ⟨fun id p hp => ?_, fun r u hr => ?_, fun f t hf => ?_⟩
  · exact (h.posts id p hp).elim (hs.posts id p) fun hnew => hnew
  · grind [h.reactions, hs.reactions]
  grind [h.follows, hs.follows]

section Statements

variable {post : GsnPost → Prop} {reactor follower : String → Prop} {s : Tables}

theorem Added.refl (post : GsnPost → Prop) (reactor follower : String → Prop) (s : Tables) :
    Added post reactor follower s s :=
  ⟨fun _ _ h => .inl h, fun _ _ h => .inl h, fun _ _ h => .inl h⟩

theorem added_createGsnPost {p : GsnPost} (h : post p) : Added post reactor follower s (createGsnPost s p).1 := by
  unfold createGsnPost
  split
  · exact .refl _ _ _ s
  grind [Table.get?_of_insertOrIgnore, Added]

theorem added_createGsnComment (comment : GsnComment) : Added post reactor follower s (createGsnComment s comment).1 := by
  unfold createGsnComment
  split
  · exact .refl _ _ _ s
  split
  · exact .refl _ _ _ s
  exact { Added.refl post reactor follower s with }

theorem added_deleteGsnPost (postID : String) : Added post reactor follower s (deleteGsnPost s postID) := by
  unfold deleteGsnPost
  split
  · exact .refl _ _ _ s
  grind [Table.get?_of_deleteWhere, Added]

variable {r : Reaction}

theorem added_reaction (h : reactor r.gaiaID) :
    Added post reactor follower s { s with reactions := s.reactions.insertOrIgnore r () } := by
  grind [Table.get?_of_insertOrIgnore, Added]

theorem added_deleteReaction (r : Reaction) :
    Added post reactor follower s { s with reactions := s.reactions.deleteWhere fun k _ => k = r } :=
  { Added.refl post reactor follower s with reactions := fun _ _ hr => .inl (Table.get?_of_deleteWhere hr) }

theorem added_saveGsnReaction (h : reactor r.gaiaID) (action : String) :
    Added post reactor follower s (saveGsnReaction s r action).1 := by
  unfold saveGsnReaction
  split
  · exact added_deleteReaction r
  split
  · exact .refl _ _ _ s
  exact added_reaction h

theorem added_toggleGsnReaction (h : reactor r.gaiaID) : Added post reactor follower s (toggleGsnReaction s r).1 := by
  unfold toggleGsnReaction
  split
  · exact added_deleteReaction r
  split
  · exact .refl _ _ _ s
  exact added_reaction h

theorem added_followGsnUser {f : Follow} (h : follower f.follower) (now : Nat) :
    Added post reactor follower s (followGsnUser now s f) := by
  grind [Table.get?_of_insertOrIgnore, Added, followGsnUser]

theorem added_unfollowGsnUser (f : Follow) : Added post reactor follower s (unfollowGsnUser s f) :=
  { Added.refl post reactor follower s with follows := fun _ _ hf => .inl (Table.get?_of_deleteWhere hf) }

theorem added_updateGsnProfile (now : Nat) (profile : GsnProfile) :
    Added post reactor follower s (updateGsnProfile now s profile).1 := by
  unfold updateGsnProfile
  split
  · exact .refl _ _ _ s
  exact { Added.refl post reactor follower s with }

end Statements

/-! ## Local operations -/

theorem tables_of_executed {α : Type} {r : Tables × Except ConstraintError α} {a : α}
    (h : executed r = .ok (s, a)) : r.1 = s := by
  rw [executed_ok.1 h]

/-- A local operation adds a post in the name of the node, or a reaction or a follow of the acting identity. -/
theorem added_perform {n : Node} {op : Operation} {b : Broadcast} (h : perform n op = .ok (s, b))
    (hhonest : Honest n.serverName (.local n op)) : Added GsnPost.AtHome Canonical Canonical n.tables s := by
  cases op with
  | createPost userID identityID body image signature repost timestamp =>
    simp only [perform, createPost, bind_eq_ok, required_ok] at h
    obtain ⟨ident, hident, -, -, -, -, -, -, -, -, ⟨tables, u⟩, hrow, hret⟩ := h
    cases hret
    rw [← tables_of_executed hrow]
    exact added_createGsnPost (hhonest ident hident).symm
  | deletePost userID postID =>
    simp only [perform, deletePost, bind_eq_ok, required_ok] at h
    obtain ⟨_, -, _, -, _, -, hret⟩ := h
    cases hret
    exact added_deleteGsnPost postID
  | createComment identityID postID body signature timestamp =>
    simp only [perform, createComment, bind_eq_ok, required_ok] at h
    obtain ⟨ident, hident, -, -, -, -, -, -, -, -, ⟨tables, u⟩, hrow, hret⟩ := h
    cases hret <;> grind [added_createGsnComment]
  | deleteComment userID commentID =>
    simp only [perform, deleteComment, bind_eq_ok, required_ok] at h
    obtain ⟨_, -, _, -, _, -, _, -, hret⟩ := h
    cases hret
    exact { Added.refl _ _ _ n.tables with }
  | reactToPost identityID postID emoji =>
    simp only [perform, reactToPost, bind_eq_ok, required_ok] at h
    obtain ⟨ident, hident, -, -, ⟨tables, action⟩, hrow, hret⟩ := h
    cases hret
    rw [← tables_of_executed hrow]
    exact added_toggleGsnReaction (hhonest ident hident)
  | followUser identityID following =>
    simp only [perform, followUser, bind_eq_ok, required_ok] at h
    obtain ⟨ident, hident, -, -, -, -, hret⟩ := h
    cases hret
    exact added_followGsnUser (hhonest ident hident) n.now
  | unfollowUser identityID following =>
    simp only [perform, unfollowUser, bind_eq_ok, required_ok] at h
    obtain ⟨ident, hident, hret⟩ := h
    cases hret
    exact added_unfollowGsnUser _
  | updateProfile userID identityID realName displayName description avatar website readBack =>
    simp only [perform, updateProfile, bind_eq_ok, required_ok] at h
    obtain ⟨_, -, _, -, ident, hident, -, -, ⟨tables, u⟩, hrow, -, -, hret⟩ := h
    cases hret
    rw [← tables_of_executed hrow]
    exact added_updateGsnProfile n.now _

/-! ## Incoming PDUs -/

theorem added_persist {serverName peerDomain : String} {now : Nat} {p : Pdu} (s : Tables)
    (hhonest : Honest serverName (.incoming now peerDomain p)) :
    Added GsnPost.AtHome Canonical Canonical s (persistIncomingGsnPDU now s p).1 := by
  obtain ⟨hpost, hreaction, hfollow⟩ := hhonest
  unfold persistIncomingGsnPDU
  cases hk : kind p.type with
  | none => exact .refl _ _ _ s
  | some k =>
    have hnone := Added.refl GsnPost.AtHome Canonical Canonical s
    cases k with
    | encrypted | smtpLegacy => exact hnone
    | post =>
      refine persistDecoded_cases hnone fun post hdecode => ?_
      rw [wrapInsert_fst]
      exact added_createGsnPost (p := post.unverified) (hpost hk post hdecode)
    | comment =>
      refine persistDecoded_cases hnone fun comment _ => ?_
      rw [wrapInsert_fst]
      exact added_createGsnComment comment
    | reaction =>
      refine persistDecoded_cases hnone fun r hdecode => ?_
      rw [wrap_fst]
      exact added_saveGsnReaction (hreaction hk r hdecode) r.2
    | postDelete => exact persistDecoded_cases hnone fun postID _ => added_deleteGsnPost postID
    | commentDelete => exact persistDecoded_cases hnone fun commentID _ => { hnone with }
    | profile =>
      refine persistDecoded_cases hnone fun profile _ => ?_
      rw [wrap_fst]
      exact added_updateGsnProfile now _
    | follow => exact persistDecoded_cases hnone fun follow hdecode => added_followGsnUser (hfollow hk follow hdecode) now
    | unfollow => exact persistDecoded_cases hnone fun follow _ => added_unfollowGsnUser follow

/-! ## Runs -/

theorem attributed_step {serverName : String} {e : SocialEvent} (hs : Attributed s)
    (hhonest : Honest serverName e) : Attributed (socialStep serverName s e) := by
  cases e with
  | «local» n op =>
    simp only [socialStep]
    split
    · rename_i s' b hperform
      refine (added_perform hperform ?_).attributed hs
      cases op <;> exact hhonest
    · exact hs
  | incoming now peerDomain p =>
    simp only [socialStep]
    split
    · exact (added_persist s hhonest).attributed hs
    exact hs

/-- In a run in which local authors are of this node and actors have their one spelling, with posts of other nodes that name
the domain of their author, every post names the domain of its author, what is listed under a node is by its authors only, and
every actor has at most one reaction for each post and emoji and one follow for each target, up to case. -/
theorem content_attributed (serverName : String) (s : Tables) (es : List SocialEvent) (hs : Attributed s)
    (hrun : Along (socialStep serverName) (fun _ e => Honest serverName e) s es) :
    (∀ id post, (exec (socialStep serverName) s es).posts.get? id = some post → post.nodeID = afterColon post.gaiaID) ∧
      (∀ nodeID, ∀ post ∈ listGsnPostsByNode (exec (socialStep serverName) s es) nodeID, afterColon post.gaiaID = nodeID) ∧
      UniqueReactions (exec (socialStep serverName) s es) ∧ UniqueFollows (exec (socialStep serverName) s es) := by
  have hend : Attributed (exec (socialStep serverName) s es) :=
    hrun.invariant (P := Attributed) (fun _ _ hs he => attributed_step hs he) hs
  exact ⟨hend.posts, fun _ _ => hend.listed, hend.uniqueReactions, hend.uniqueFollows⟩

def emptyTables : Tables := ⟨.empty, .empty, .empty, .empty, .empty, .empty⟩

def evePdu (type payload : String) : SocialEvent :=
  .incoming (62135596800 * second) "b.de"
    ⟨"018f4d1e-7614-7a3a-8e37-61f0f75a0001", type, "@eve:b.de", "@sys:a.de", payload, "", 0, ""⟩

def evePost (nodeID : String) : SocialEvent :=
  evePdu "gsn.post.v1" ("\x7b\"id\":\"p\",\"gaiaId\":\"@eve:b.de\",\"nodeId\":\"" ++ nodeID ++ "\"\x7d")

def eveReaction (actor : String) : SocialEvent :=
  evePdu "gsn.reaction.v1" ("\x7b\"postId\":\"p\",\"emoji\":\"+\",\"gaiaId\":\"" ++ actor ++ "\"\x7d")

def eveFollow (actor : String) : SocialEvent :=
  evePdu "gsn.follow.v1" ("\x7b\"followingGaiaId\":\"@bob:a.de\",\"followerGaiaId\":\"" ++ actor ++ "\"\x7d")

def honestRun : List SocialEvent :=
  [evePost "b.de", .local { sampleNode with queries := { sampleNode.queries with
    findIdentityByID := fun _ => some ⟨.nil, "@bob:a.de", "", ""⟩ } } (.reactToPost .nil "p" "+"), eveReaction "@eve:b.de",
    eveFollow "@eve:b.de"]

theorem honest_content_attributed :
    (exec (socialStep "a.de") emptyTables honestRun).reactions.rows.map Prod.fst =
        [⟨"p", "@bob:a.de", "+"⟩, ⟨"p", "@eve:b.de", "+"⟩] ∧
      (∀ nodeID, ∀ post ∈ listGsnPostsByNode (exec (socialStep "a.de") emptyTables honestRun) nodeID,
        afterColon post.gaiaID = nodeID) ∧
      UniqueReactions (exec (socialStep "a.de") emptyTables honestRun) ∧
      UniqueFollows (exec (socialStep "a.de") emptyTables honestRun) := by
  have hhonest : ∀ e ∈ honestRun, Honest "a.de" e := by decide +kernel
  have hempty : Attributed emptyTables := ⟨fun _ _ h => (by cases h), fun _ _ h => (by cases h), fun _ _ h => (by cases h)⟩
  exact ⟨by decide +kernel, (content_attributed "a.de" emptyTables honestRun hempty (along_of_forall_mem fun e he _ => hhonest e he)).2⟩

/-- A peer gives its post the name of this node, and its user reacts and follows under two spellings. -/
def forgedRun : List SocialEvent :=
  [evePost "a.de", eveReaction "@eve:b.de", eveReaction "@Eve:b.de", eveFollow "@eve:b.de", eveFollow "@Eve:b.de"]

theorem forged_content :
    (listGsnPostsByNode (exec (socialStep "a.de") emptyTables forgedRun) "a.de").map GsnPost.gaiaID = ["@eve:b.de"] ∧
      ¬ UniqueReactions (exec (socialStep "a.de") emptyTables forgedRun) ∧
      ¬ UniqueFollows (exec (socialStep "a.de") emptyTables forgedRun) := by
  have hrun : (listGsnPostsByNode (exec (socialStep "a.de") emptyTables forgedRun) "a.de").map GsnPost.gaiaID =
        ["@eve:b.de"] ∧
      (exec (socialStep "a.de") emptyTables forgedRun).reactions.get? ⟨"p", "@eve:b.de", "+"⟩ = some () ∧
      (exec (socialStep "a.de") emptyTables forgedRun).reactions.get? ⟨"p", "@Eve:b.de", "+"⟩ = some () ∧
      (exec (socialStep "a.de") emptyTables forgedRun).follows.get? ⟨"@eve:b.de", "@bob:a.de"⟩ =
        some "1970-01-01T00:00:00Z" ∧
      (exec (socialStep "a.de") emptyTables forgedRun).follows.get? ⟨"@Eve:b.de", "@bob:a.de"⟩ =
        some "1970-01-01T00:00:00Z" := by
    decide +kernel
  obtain ⟨hlisted, hreaction, hreaction', hfollow, hfollow'⟩ := hrun
  refine ⟨hlisted, fun hunique => ?_, fun hunique => ?_⟩
  · exact absurd (hunique _ _ _ _ hreaction hreaction' rfl rfl (by decide)) (by decide)
  · exact absurd (hunique _ _ _ _ hfollow hfollow' rfl (by decide)) (by decide)

end GaiaCom.Gsn
