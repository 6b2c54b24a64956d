/-
Whether other nodes take what this node broadcasts: a PDU of gsn/service.go, queued, signed and sent, against
`ValidateAuthenticatedPayload` and `ValidateIncomingPDUBusiness` of a peer whose replica held the same posts
and comments before the operation.

The peer accepts it exactly if the named sender belongs to this node and the keys of the payload are not
empty. Operations on one's own content name the acting identity; the deletions name the author of the post,
which may belong to another node.
-/
import GaiaCom.Federation.Admission
import GaiaCom.Federation.Authorization
import GaiaCom.Gsn.Service

namespace GaiaCom.Gsn

open Lib Core Store Federation Federation.Wire
open Lib.Json (Written structMembers Distinct)

/-! ## Payloads are decoded as they were written -/

theorem payloadMembers_struct (fs : List (String × Option (Written 0))) :
    payloadMembers (String.ofList (Written.struct fs).text) = some (structMembers fs) := by
  rw [payloadMembers, Json.parse, String.toList_ofList, Json.parseChars_text _ (by decide)]
  exact Json.members_struct fs

theorem mem_of_lookup {α : Type} {name : String} {a : α} : ∀ {fs : List (String × α)}, fs.lookup name = some a →
    (name, a) ∈ fs
  | [], h => by cases h
  | (key, b) :: fs, h => by
    rw [List.lookup_cons] at h
    split at h
    · rename_i hkey
      cases h
      rw [beq_iff_eq.1 hkey]
      exact List.mem_cons_self ..
    · exact List.mem_cons_of_mem _ (mem_of_lookup h)

section Fields

variable {fs : List (String × Option (Written 0))} (hfs : Distinct (fs.map Prod.fst))
include hfs

theorem stringField_string (name : String) {s : String} (h : fs.lookup name = some (string s)) :
    Json.stringField name (structMembers fs) = some s := by
  rw [Json.stringField_struct hfs (mem_of_lookup h)]
  exact congrArg some (ofBytes_bytes s)

theorem boolField_flag (name : String) {b : Bool} (h : fs.lookup name = some (flag b)) :
    Json.boolField name (structMembers fs) = some b :=
  Json.boolField_struct hfs (mem_of_lookup h)

end Fields

theorem decodePost_postFields (p : GsnPost) :
    decodePost (String.ofList (Written.struct (postFields p)).text) = some p := by
  have hfs : Distinct ((postFields p).map Prod.fst) := by
    show Distinct ["id", "gaiaId", "displayName", "avatar", "nodeId", "timestamp", "body", "imageAttachment", "signature",
      "repostOfPostId", "isVerifiedOperator", "isVerifiedGovernance", "isVerifiedPassport"]
    decide +kernel
  have hs := fun name s h => stringField_string (s := s) hfs name h
  have hb := fun name b h => boolField_flag (b := b) hfs name h
  rw [decodePost, payloadMembers_struct, Option.bind_eq_bind, Option.bind_some]
  rw [hs "id" p.id rfl, hs "gaiaId" p.gaiaID rfl, hs "displayName" p.displayName rfl, hs "avatar" p.avatar rfl,
    hs "nodeId" p.nodeID rfl, hs "timestamp" p.timestamp rfl, hs "body" p.body rfl,
    hs "imageAttachment" p.imageAttachment rfl, hs "signature" p.signature rfl, hs "repostOfPostId" p.repostOfPostID rfl,
    hb "isVerifiedOperator" p.isVerifiedOperator rfl, hb "isVerifiedGovernance" p.isVerifiedGovernance rfl,
    hb "isVerifiedPassport" p.isVerifiedPassport rfl]
  rfl

theorem decodeComment_commentFields (c : GsnComment) :
    decodeComment (String.ofList (Written.struct (commentFields c)).text) = some c := by
  have hfs : Distinct ((commentFields c).map Prod.fst) := by
    show Distinct ["id", "postId", "gaiaId", "displayName", "avatar", "timestamp", "body", "signature"]
    decide +kernel
  have hs := fun name s h => stringField_string (s := s) hfs name h
  simp only [decodeComment, payloadMembers_struct, hs "id" c.id rfl, hs "postId" c.postID rfl, hs "gaiaId" c.gaiaID rfl,
    hs "displayName" c.displayName rfl, hs "avatar" c.avatar rfl, hs "timestamp" c.timestamp rfl, hs "body" c.body rfl,
    hs "signature" c.signature rfl, Option.bind_eq_bind, Option.bind_some, Option.pure_def]

theorem decodeProfile_profileFields {p : GsnProfile} (hfollowers : -(2 ^ 63) ≤ p.followersCount ∧ p.followersCount < 2 ^ 63)
    (hfollowing : -(2 ^ 63) ≤ p.followingCount ∧ p.followingCount < 2 ^ 63) :
    decodeProfile (String.ofList (Written.struct (profileFields p)).text) = some p := by
  have hfs : Distinct ((profileFields p).map Prod.fst) := by
    show Distinct ["identityId", "gaiaId", "realName", "displayName", "description", "avatar", "website",
      "isVerifiedOperator", "isVerifiedGovernance", "isVerifiedPassport", "trustPassportSummary", "followersCount",
      "followingCount", "updatedAt"]
    decide +kernel
  have hs := fun name s h => stringField_string (s := s) hfs name h
  have hb := fun name b h => boolField_flag (b := b) hfs name h
  have hc1 : Json.intField "followersCount" (structMembers (profileFields p)) = some p.followersCount :=
    Json.intField_struct hfs (mem_of_lookup rfl) hfollowers.1 hfollowers.2
  have hc2 : Json.intField "followingCount" (structMembers (profileFields p)) = some p.followingCount :=
    Json.intField_struct hfs (mem_of_lookup rfl) hfollowing.1 hfollowing.2
  rw [decodeProfile, payloadMembers_struct, Option.bind_eq_bind, Option.bind_some]
  rw [hs "identityId" p.identityID rfl, hs "gaiaId" p.gaiaID rfl, hs "realName" p.realName rfl,
    hs "displayName" p.displayName rfl, hs "description" p.description rfl, hs "avatar" p.avatar rfl,
    hs "website" p.website rfl, hb "isVerifiedOperator" p.isVerifiedOperator rfl,
    hb "isVerifiedGovernance" p.isVerifiedGovernance rfl, hb "isVerifiedPassport" p.isVerifiedPassport rfl,
    hs "trustPassportSummary" p.trustPassportSummary rfl, hc1, hc2, hs "updatedAt" p.updatedAt rfl]
  rfl

theorem decodeReaction_reactionFields (r : Reaction) (action : String) :
    decodeReaction (String.ofList (Written.struct (reactionFields r action)).text) = some (r, action) := by
  have hfs : Distinct ((reactionFields r action).map Prod.fst) := by
    show Distinct ["postId", "gaiaId", "emoji", "action"]
    decide +kernel
  have hs := fun name s h => stringField_string (s := s) hfs name h
  simp only [decodeReaction, payloadMembers_struct, hs "postId" r.postID rfl, hs "gaiaId" r.gaiaID rfl,
    hs "emoji" r.emoji rfl, hs "action" action rfl, Option.bind_eq_bind, Option.bind_some, Option.pure_def]

theorem decodeFollow_followFields (f : Follow) :
    decodeFollow (String.ofList (Written.struct (followFields f)).text) = some f := by
  have hfs : Distinct ((followFields f).map Prod.fst) := by
    show Distinct ["followerGaiaId", "followingGaiaId"]
    decide +kernel
  have hs := fun name s h => stringField_string (s := s) hfs name h
  simp only [decodeFollow, payloadMembers_struct, hs "followerGaiaId" f.follower rfl, hs "followingGaiaId" f.following rfl,
    Option.bind_eq_bind, Option.bind_some, Option.pure_def]

theorem decodePostID_postDeletionFields (postID : String) :
    decodePostID (String.ofList (Written.struct (postDeletionFields postID)).text) = some postID := by
  have hfs : Distinct ((postDeletionFields postID).map Prod.fst) := by
    show Distinct ["postId"]
    decide +kernel
  simp only [decodePostID, payloadMembers_struct, stringField_string hfs "postId" (s := postID) rfl, Option.bind_eq_bind,
    Option.bind_some]

theorem decode_commentDeletionFields (commentID postID : String) :
    decodeCommentID (String.ofList (Written.struct (commentDeletionFields commentID postID)).text) = some commentID ∧
      decodePostID (String.ofList (Written.struct (commentDeletionFields commentID postID)).text) = some postID := by
  have hfs : Distinct ((commentDeletionFields commentID postID).map Prod.fst) := by
    show Distinct ["commentId", "postId"]
    decide +kernel
  have hs := fun name s h => stringField_string (s := s) hfs name h
  constructor
  · grind [decodeCommentID, payloadMembers_struct, commentDeletionFields]
  · grind [decodePostID, payloadMembers_struct, Written.struct, commentDeletionFields]

/-! ## Operations -/

/-- A call of the service. -/
inductive Operation where
  | createPost (userID identityID : UUID) (body imageAttachment signature repostOfPostID timestamp : String)
  | deletePost (userID : UUID) (postID : String)
  | createComment (identityID : UUID) (postID body signature timestamp : String)
  | deleteComment (userID : UUID) (commentID : String)
  | reactToPost (identityID : UUID) (postID emoji : String)
  | followUser (identityID : UUID) (followingGaiaID : String)
  | unfollowUser (identityID : UUID) (followingGaiaID : String)
  | updateProfile (userID identityID : UUID) (realName displayName description avatar website : String) (readBack : Bool)

def perform (n : Node) : Operation → Except GsnError (Tables × Broadcast)
  | .createPost userID identityID body imageAttachment signature repostOfPostID timestamp =>
    createPost n userID identityID body imageAttachment signature repostOfPostID timestamp
  | .deletePost userID postID => deletePost n userID postID
  | .createComment identityID postID body signature timestamp => createComment n identityID postID body signature timestamp
  | .deleteComment userID commentID => deleteComment n userID commentID
  | .reactToPost identityID postID emoji => reactToPost n identityID postID emoji
  | .followUser identityID followingGaiaID => followUser n identityID followingGaiaID
  | .unfollowUser identityID followingGaiaID => unfollowUser n identityID followingGaiaID
  | .updateProfile userID identityID realName displayName description avatar website readBack =>
    updateProfile n userID identityID realName displayName description avatar website readBack

def Operation.keys (n : Node) : Operation → List String
  | .createPost .. | .updateProfile .. => []
  | .deletePost _ postID => [postID]
  | .createComment _ postID _ _ _ => [postID]
  | .deleteComment _ commentID => commentID :: ((n.tables.comments.get? commentID).map GsnComment.postID).toList
  | .reactToPost _ postID emoji => [postID, emoji]
  | .followUser _ followingGaiaID | .unfollowUser _ followingGaiaID => [followingGaiaID]

/-- The sender an operation names: the acting identity, but for deletions the author of the post. -/
def Operation.sender (n : Node) : Operation → Option String
  | .createPost _ identityID _ _ _ _ _ | .createComment identityID _ _ _ _ | .reactToPost identityID _ _
  | .followUser identityID _ | .unfollowUser identityID _ =>
    (n.queries.findIdentityByID identityID).map IdentityRow.gaiaID
  | .updateProfile userID identityID realName displayName description avatar website _ => do
    let shared ← (normalizeIdentityPublicProfile n realName displayName description avatar website).toOption
    (n.queries.updateIdentityPublicProfile userID identityID shared).map IdentityRow.gaiaID
  | .deletePost _ postID => (n.tables.posts.get? postID).map GsnPost.gaiaID
  | .deleteComment _ commentID => do
    let comment ← n.tables.comments.get? commentID
    (n.tables.posts.get? comment.postID).map GsnPost.gaiaID

theorem UUID.text_ne_empty (u : UUID) : u.text ≠ "" := by
  intro h
  have hnone : parse "" = none := by decide
  grind [parse_text]

variable {b : Broadcast} {identityID userID : UUID} {n : Node} {s : Tables}

@[grind →]
theorem createPost_ok {body image signature repost timestamp : String}
    (h : createPost n userID identityID body image signature repost timestamp = .ok (s, b)) :
    ∃ ident post, n.queries.findIdentityByID identityID = some ident ∧ post.id = n.rowID.text ∧ post.gaiaID = ident.gaiaID ∧
      b = ⟨"gsn.post.v1", ident.gaiaID, postFields post⟩ := by
  simp only [createPost, bind_eq_ok, required_ok] at h
  obtain ⟨ident, hident, -, -, -, -, -, -, -, -, ⟨tables, u⟩, -, hret⟩ := h
  cases hret
  exact ⟨ident, _, hident, rfl, rfl, rfl⟩

variable {postID : String}

@[grind →]
theorem createComment_ok {body signature timestamp : String}
    (h : createComment n identityID postID body signature timestamp = .ok (s, b)) :
    ∃ ident comment, n.queries.findIdentityByID identityID = some ident ∧ comment.id = n.rowID.text ∧
      comment.postID = postID ∧ comment.gaiaID = ident.gaiaID ∧
      b = ⟨"gsn.comment.v1", ident.gaiaID, commentFields comment⟩ := by
  simp only [createComment, bind_eq_ok, required_ok] at h
  obtain ⟨ident, hident, -, -, -, -, -, -, -, -, ⟨tables, u⟩, -, hret⟩ := h
  cases hret
  exact ⟨ident, _, hident, rfl, rfl, rfl, rfl⟩

@[grind →]
theorem reactToPost_ok {emoji : String} (h : reactToPost n identityID postID emoji = .ok (s, b)) :
    ∃ ident action, n.queries.findIdentityByID identityID = some ident ∧
      b = ⟨"gsn.reaction.v1", ident.gaiaID, reactionFields ⟨postID, ident.gaiaID, emoji⟩ action⟩ := by
  simp only [reactToPost, bind_eq_ok, required_ok] at h
  obtain ⟨ident, hident, -, -, ⟨tables, action⟩, -, hret⟩ := h
  cases hret
  exact ⟨ident, action, hident, rfl⟩

@[grind →]
theorem followUser_ok {following : String} (h : followUser n identityID following = .ok (s, b)) :
    ∃ ident, n.queries.findIdentityByID identityID = some ident ∧
      b = ⟨"gsn.follow.v1", ident.gaiaID, followFields ⟨ident.gaiaID, following⟩⟩ := by
  simp only [followUser, bind_eq_ok, required_ok] at h
  obtain ⟨ident, hident, -, -, -, -, hret⟩ := h
  cases hret
  exact ⟨ident, hident, rfl⟩

@[grind →]
theorem unfollowUser_ok {following : String} (h : unfollowUser n identityID following = .ok (s, b)) :
    ∃ ident, n.queries.findIdentityByID identityID = some ident ∧
      b = ⟨"gsn.unfollow.v1", ident.gaiaID, followFields ⟨ident.gaiaID, following⟩⟩ := by
  simp only [unfollowUser, bind_eq_ok, required_ok] at h
  obtain ⟨ident, hident, hret⟩ := h
  cases hret
  exact ⟨ident, hident, rfl⟩

@[grind →]
theorem updateProfile_ok {realName displayName description avatar website : String} {readBack : Bool}
    (h : updateProfile n userID identityID realName displayName description avatar website readBack = .ok (s, b)) :
    ∃ shared ident profile,
      normalizeIdentityPublicProfile n realName displayName description avatar website = .ok shared ∧
      n.queries.updateIdentityPublicProfile userID identityID shared = some ident ∧ profile.gaiaID = ident.gaiaID ∧
      profile.followersCount = 0 ∧ profile.followingCount = 0 ∧
      b = ⟨"gsn.profile.v1", ident.gaiaID, profileFields profile⟩ := by
  simp only [updateProfile, bind_eq_ok, required_ok] at h
  obtain ⟨-, -, shared, hshared, ident, hident, -, -, ⟨tables, u⟩, -, -, -, hret⟩ := h
  cases hret
  exact ⟨shared, ident, _, hshared, hident, rfl, rfl, rfl, rfl⟩

@[grind →]
theorem deletePost_ok (h : deletePost n userID postID = .ok (s, b)) : ∃ post, n.tables.posts.get? postID = some post ∧
      b = ⟨"gsn.post_delete.v1", post.gaiaID, postDeletionFields postID⟩ := by
  simp only [deletePost, bind_eq_ok, required_ok] at h
  obtain ⟨post, hpost, -, -, -, -, hret⟩ := h
  cases hret
  exact ⟨post, hpost, rfl⟩

@[grind →]
theorem deleteComment_ok {commentID : String} (h : deleteComment n userID commentID = .ok (s, b)) :
    ∃ comment post, n.tables.comments.get? commentID = some comment ∧ n.tables.posts.get? comment.postID = some post ∧
      b = ⟨"gsn.comment_delete.v1", post.gaiaID, commentDeletionFields commentID comment.postID⟩ := by
  simp only [deleteComment, bind_eq_ok, required_ok] at h
  obtain ⟨comment, hcomment, post, hpost, -, -, -, -, hret⟩ := h
  cases hret
  exact ⟨comment, post, hcomment, hpost, rfl⟩

variable {op : Operation}

theorem perform_sender (h : perform n op = .ok (s, b)) : op.sender n = some b.senderGaiaID := by
  cases op with
  | createPost =>
    obtain ⟨ident, post, hident, -, -, rfl⟩ := createPost_ok h
    simp [Operation.sender, hident]
  | deletePost =>
    obtain ⟨post, hpost, rfl⟩ := deletePost_ok h
    simp [Operation.sender, hpost]
  | createComment =>
    obtain ⟨ident, comment, hident, -, -, -, rfl⟩ := createComment_ok h
    simp [Operation.sender, hident]
  | deleteComment =>
    obtain ⟨comment, post, hcomment, hpost, rfl⟩ := deleteComment_ok h
    simp [Operation.sender, hcomment, hpost]
  | reactToPost =>
    obtain ⟨ident, action, hident, rfl⟩ := reactToPost_ok h
    simp [Operation.sender, hident]
  | followUser =>
    obtain ⟨ident, hident, rfl⟩ := followUser_ok h
    simp [Operation.sender, hident]
  | unfollowUser =>
    obtain ⟨ident, hident, rfl⟩ := unfollowUser_ok h
    simp [Operation.sender, hident]
  | updateProfile =>
    obtain ⟨shared, ident, profile, hshared, hident, -, -, -, rfl⟩ := updateProfile_ok h
    simp [Operation.sender, hshared, Except.toOption, hident]

/-! ## The receiver's authorization -/

/-- The PDU carries the broadcast. -/
structure Carries (p : Pdu) (b : Broadcast) : Prop where
  type : p.type = b.pduType
  sender : p.sender = b.senderGaiaID
  payload : p.payload = String.ofList (Written.struct b.payload).text

def Operation.kind : Operation → Kind
  | .createPost .. => .post
  | .deletePost .. => .postDelete
  | .createComment .. => .comment
  | .deleteComment .. => .commentDelete
  | .reactToPost .. => .reaction
  | .followUser .. => .follow
  | .unfollowUser .. => .unfollow
  | .updateProfile .. => .profile

theorem Operation.kind_social (op : Operation) : op.kind ≠ .encrypted ∧ op.kind ≠ .smtpLegacy := by
  cases op <;> simp [Operation.kind]

theorem perform_kind (h : perform n op = .ok (s, b)) : Federation.kind b.pduType = some op.kind := by
  cases op with
  | createPost => obtain ⟨_, _, -, -, -, rfl⟩ := createPost_ok h; rfl
  | deletePost => obtain ⟨_, -, rfl⟩ := deletePost_ok h; rfl
  | createComment => obtain ⟨_, _, -, -, -, -, rfl⟩ := createComment_ok h; rfl
  | deleteComment => obtain ⟨_, _, -, -, rfl⟩ := deleteComment_ok h; rfl
  | reactToPost => obtain ⟨_, _, -, rfl⟩ := reactToPost_ok h; rfl
  | followUser => obtain ⟨_, -, rfl⟩ := followUser_ok h; rfl
  | unfollowUser => obtain ⟨_, -, rfl⟩ := unfollowUser_ok h; rfl
  | updateProfile => obtain ⟨_, _, _, -, -, -, -, -, rfl⟩ := updateProfile_ok h; rfl

variable {k : Kind} {p : Pdu}

theorem validate_eq_checkKind (hk : kind p.type = some k) (h1 : k ≠ .encrypted)
    (h2 : k ≠ .smtpLegacy) : validateIncomingPDUBusiness s p = checkKind s p k := by
  have hgsn := ((gsn_of_kind hk).resolve_left h1).resolve_left h2
  unfold validateIncomingPDUBusiness
  rw [hgsn, hk]
  rfl

theorem checkActor_iff {α : Type} {what : String} {v : α} {complete : α → Bool} {actor : α → String} :
    checkActor p what (some v) complete actor = .ok () ↔
      complete v = true ∧ actor v ≠ "" ∧ equalFold (actor v) p.sender = true := by
  simp only [checkActor, sameActor, ite_error_eq_ok, Bool.not_eq_false, not_or, and_true, ne_eq]

/-- A peer with the same posts and comments authorizes a broadcast exactly if its keys are there. -/
theorem business_iff (h : perform n op = .ok (s, b))
    {replica : Tables} (hposts : replica.posts = n.tables.posts) (hcomments : replica.comments = n.tables.comments)
    (hp : Carries p b) (hsender : b.senderGaiaID ≠ "") :
    validateIncomingPDUBusiness replica p = .ok () ↔ ∀ key ∈ op.keys n, key ≠ "" := by
  obtain ⟨htype, hs, hpayload⟩ := hp
  rw [validate_eq_checkKind (htype ▸ perform_kind h) op.kind_social.1 op.kind_social.2]
  cases op with
  | createPost =>
    obtain ⟨ident, post, -, hid, hactor, rfl⟩ := createPost_ok h <;> grind [Operation.kind, checkKind,
      decodePost_postFields, checkActor_iff, Operation.keys, UUID.text_ne_empty]
  | createComment _ postID =>
    obtain ⟨ident, comment, -, hid, hpost, hactor, rfl⟩ := createComment_ok h
    rw [Operation.kind, checkKind, hpayload,
      decodeComment_commentFields, checkActor_iff]
    simp only [Bool.and_eq_true, bne_iff_ne, ne_eq, hid, UUID.text_ne_empty, not_false_eq_true, true_and, hpost, hactor, hs,
      equalFold_self, and_true, Operation.keys, List.mem_singleton, forall_eq]
    exact and_iff_left hsender
  | reactToPost _ postID emoji =>
    obtain ⟨ident, action, -, rfl⟩ := reactToPost_ok h
    rw [Operation.kind, checkKind, hpayload,
      decodeReaction_reactionFields, checkActor_iff]
    simp only [Bool.and_eq_true, bne_iff_ne, ne_eq, hs, equalFold_self, and_true, Operation.keys, List.forall_mem_cons,
      List.not_mem_nil, false_implies, implies_true]
    exact and_iff_left hsender
  | followUser _ following =>
    obtain ⟨ident, -, rfl⟩ := followUser_ok h
    rw [Operation.kind, checkKind, hpayload,
      decodeFollow_followFields, checkActor_iff]
    simp only [bne_iff_ne, ne_eq, hs, equalFold_self, and_true, Operation.keys, List.mem_singleton, forall_eq]
    exact and_iff_left hsender
  | unfollowUser _ following =>
    obtain ⟨ident, -, rfl⟩ := unfollowUser_ok h
    rw [Operation.kind, checkKind, hpayload,
      decodeFollow_followFields, checkActor_iff]
    simp only [bne_iff_ne, ne_eq, hs, equalFold_self, and_true, Operation.keys, List.mem_singleton, forall_eq]
    exact and_iff_left hsender
  | updateProfile =>
    obtain ⟨shared, ident, profile, -, -, hactor, h1, h2, rfl⟩ := updateProfile_ok h <;> grind [Operation.kind,
      checkKind, decodeProfile_profileFields, checkActor_iff, Operation.keys]
  | deletePost _ postID =>
    obtain ⟨post, hpost, rfl⟩ := deletePost_ok h <;> grind [ownPost, Operation.kind, checkKind, checkPostDeletion,
      decodePostID_postDeletionFields, Operation.keys]
  | deleteComment _ commentID =>
    obtain ⟨comment, post, hcomment, hpost, rfl⟩ := deleteComment_ok h <;> grind [ownPost,
      decode_commentDeletionFields, Operation.kind, checkKind, checkCommentDeletion, Operation.keys]

/-! ## The receiver's admission -/

variable {item : QueueItem} {name : String}

@[grind →]
theorem queueOutgoingPDU_some {serverName : String} {p : PDU} (h : queueOutgoingPDU serverName p name = some item) :
    item.targetURL = name ∧ item.pduPayload = Utf8.encode p.written.text := by
  unfold queueOutgoingPDU at h
  generalize Utf8.encode p.written.text = payload at h ⊢
  grind

theorem broadcastPDU_item (h : item ∈ broadcastPDU n b) :
    ∃ name i, gaiaID ("@system:" ++ name) = .ok () ∧ item.targetURL = name ∧
      item.pduPayload = Utf8.encode (b.pdu ("@system:" ++ name) (n.pduID i) (n.pduTime i)).written.text := by
  obtain ⟨⟨server, i⟩, -, hserver⟩ := List.mem_filterMap.1 h <;> grind

theorem clean_bytes (s : String) : Wire.clean (bytes s) = bytes s := clean_encode _

theorem Broadcast.pdu_clean (b : Broadcast) (dest : String) (id : UUID) (createdAt : Int64) :
    (b.pdu dest id createdAt).Clean := by
  have hnil : Wire.clean [] = [] := rfl
  simp [PDU.Clean, PDU.clean, Broadcast.pdu, clean_bytes, hnil]

variable {createdAt : Int64} {id : UUID}

theorem unmarshalPDU_broadcast {payload : Bytes} {dest : String}
    (h : payload = Utf8.encode (b.pdu dest id createdAt).written.text) :
    unmarshalPDU payload = some (b.pdu dest id createdAt) := by
  rw [h, unmarshalPDU_written, b.pdu_clean dest id createdAt]

theorem belongsTo_system (h : gaiaID ("@system:" ++ name) = .ok ()) : belongsTo ("@system:" ++ name) name = true := by
  obtain ⟨hsplit, hlocal, -⟩ := gaiaID_ok h
  have hlist : ("@system:" ++ name).toList = '@' :: "system".toList ++ ':' :: name.toList := by
    rw [String.toList_append]
    rfl
  have hcolon : ':' ∉ (beforeColon ("@system:" ++ name)).toList := by
    intro hmem
    exact absurd (hlocal ':' hmem) (by decide)
  rw [hlist] at hsplit
  have hcut := cut_first (by decide) hcolon (List.cons.inj hsplit).2
  have hafter : afterColon ("@system:" ++ name) = name := String.toList_inj.1 hcut.2.symm
  simp [belongsTo, gaiaIDDomain, h, domainOf, hafter, equalFold_toLower_left]

theorem gaiaID_of_belongsTo {id : String} (h : belongsTo id name = true) : gaiaID id = .ok () := by
  grind [belongsTo, gaiaIDDomain]

theorem belongsTo_toLower (id name : String) : belongsTo id (toLower name) = belongsTo id name := by
  grind [belongsTo, equalFold_toLower_right]

/-- The shape of a social PDU with a good id and destination is a matter of its sender and date. -/
theorem shape_iff {now : Nat} (hk : kind p.type = some k) (hsocial : k ≠ .encrypted)
    (hdest : gaiaID p.destination = .ok ()) (hid : (parse p.pduID).isSome = true) :
    validateIncomingPDUShape now p = .ok () ↔
      gaiaID p.sender = .ok () ∧ unix now - 3600 ≤ p.createdAt ∧ p.createdAt ≤ unix now + 3600 := by
  have htype : p.type ≠ "gaia.encrypted.v1" := by
    intro htype
    rw [htype] at hk
    exact hsocial (Option.some.inj hk).symm
  have hid' : (parse p.pduID).isNone = false := by simpa using hid
  unfold validateIncomingPDUShape
  cases gaiaID p.sender with
  | error err => simp
  | ok =>
    simp only [hdest, hk, Option.isNone_some, Bool.false_eq_true, if_false, hid', ite_error_eq_ok, htype, and_true,
      true_and]
    omega

/-- The item, decoded, signed by the node and sent at `ts`, passes the checks of the peer it is for at the
peer's clock `now`. -/
def Accepted (c : Primitives) (keys : KeyPair c) (serverName : String) (replica : Tables) (item : QueueItem) (ts : Int64)
    (now : Nat) : Prop :=
  ∃ stored signed t, unmarshalPDU item.pduPayload = some stored ∧ signPDU c keys.privateKey stored = some signed ∧
    unmarshalPayload (transactionBody serverName ts signed) = some t ∧
    validateAuthenticatedPayload c item.targetURL now t (some ⟨toLower serverName, keys.publicKey⟩) = .ok () ∧
    ∀ p ∈ t.pdus, validateIncomingPDUBusiness replica p.texts = .ok ()

variable {c : Primitives} {signed : PDU}

theorem signPDU_texts {privateKey : Bytes} {p : PDU} (h : signPDU c privateKey p = some signed) :
    signed.texts = { p.texts with signature := ofBytes signed.signature } := by
  grind [signPDU, PDU.texts]

theorem domain_origin {serverName : String} (h : domain serverName = true) :
    equalFold (trimSpace serverName) (toLower serverName) = true := by
  rw [trimSpace_of_domain h, equalFold_toLower_right, equalFold_self]

/-- A node at `now` takes a date that is at most an hour off. -/
def Dated (now : Nat) (createdAt : Int64) : Prop :=
  unix now - 3600 ≤ createdAt.toInt ∧ createdAt.toInt ≤ unix now + 3600

instance (now : Nat) (createdAt : Int64) : Decidable (Dated now createdAt) :=
  inferInstanceAs (Decidable (unix now - 3600 ≤ createdAt.toInt ∧ createdAt.toInt ≤ unix now + 3600))

theorem signed_carries {privateKey : Bytes} {dest : String}
      (h : signPDU c privateKey (b.pdu dest id createdAt) = some signed) : Carries signed.texts b := by
  rw [signPDU_texts h]
  grind [PDU.texts, Broadcast.pdu, ofBytes, Carries]

theorem admitted_iff (keys : KeyPair c) (hk : kind b.pduType = some k)
    (hsocial : k ≠ .encrypted) (hdest : gaiaID ("@system:" ++ name) = .ok ())
    (hsigned : signPDU c keys.privateKey (b.pdu ("@system:" ++ name) id createdAt) = some signed) (serverName : String)
    (ts : Int64) (now : Nat) : validateAuthenticatedPayload c name now ⟨bytes serverName, ts, [signed]⟩
        (some ⟨toLower serverName, keys.publicKey⟩) = .ok () ↔
      domain serverName = true ∧ isTimestampValid (unix now) ts.toInt = true ∧ Dated now createdAt ∧
        belongsTo b.senderGaiaID serverName = true := by
  have hcarries := signed_carries hsigned
  have htexts := signPDU_texts hsigned
  have hid : (parse signed.texts.pduID).isSome = true := by
    rw [htexts]
    simp [PDU.texts, Broadcast.pdu, parse_text]
  have hdestination : signed.texts.destination = "@system:" ++ name := by
    rw [htexts]
    exact ofBytes_bytes _
  have hcreated : signed.texts.createdAt = createdAt.toInt := by
    rw [htexts]
    rfl
  rw [validateAuthenticatedPayload_single rfl,
    shape_iff (hcarries.type ▸ hk) hsocial (hdestination ▸ hdest) hid, hcarries.sender, hcreated, hdestination,
    belongsTo_toLower, domain_toLower, ofBytes_bytes]
  constructor
  · rintro ⟨⟨hdomain, -⟩, -, hts, ⟨-, hdated⟩, hsender, -⟩
    exact ⟨hdomain, hts, hdated, hsender⟩
  · rintro ⟨hdomain, hts, hdated, hsender⟩
    exact ⟨⟨hdomain, keys.public_length⟩, domain_origin hdomain, hts, ⟨gaiaID_of_belongsTo hsender, hdated⟩, hsender,
      belongsTo_system hdest, verifyPDUSignature_signPDU keys hsigned⟩

theorem accepted_iff (c : Primitives) (keys : KeyPair c)
    (h : perform n op = .ok (s, b)) (hitem : item ∈ broadcastPDU n b) {replica : Tables}
    (hposts : replica.posts = n.tables.posts) (hcomments : replica.comments = n.tables.comments) (ts : Int64)
    (now : Nat) : Accepted c keys n.serverName replica item ts now ↔
      domain n.serverName = true ∧ isTimestampValid (unix now) ts.toInt = true ∧
        (∀ p ∈ unmarshalPDU item.pduPayload, Dated now p.createdAt) ∧
        (∃ sender ∈ op.sender n, belongsTo sender n.serverName = true) ∧ ∀ key ∈ op.keys n, key ≠ "" := by
  obtain ⟨name, i, hdest, htarget, hpayload⟩ := broadcastPDU_item hitem
  have hclean := b.pdu_clean ("@system:" ++ name) (n.pduID i) (n.pduTime i)
  have hstored := unmarshalPDU_broadcast hpayload
  obtain ⟨signed, hsigned⟩ := signPDU_isSome keys (b.pdu ("@system:" ++ name) (n.pduID i) (n.pduTime i))
  have hbody := unmarshalPayload_transactionBody (signPDU_clean hclean hsigned) n.serverName ts
  have hadmitted := admitted_iff keys (perform_kind h) op.kind_social.1 hdest hsigned n.serverName ts now
  have hbusiness := fun hsender => business_iff h hposts hcomments (signed_carries hsigned) hsender
  have hempty : belongsTo b.senderGaiaID n.serverName = true → b.senderGaiaID ≠ "" := by
    intro hbelongs hnil
    have hvalid := gaiaID_of_belongsTo hbelongs
    rw [hnil] at hvalid
    cases hvalid
  rw [hstored, perform_sender h]
  simp only [Option.mem_def, Option.some.injEq, forall_eq', exists_eq_left']
  constructor
  · rintro ⟨stored, signed', t, hst, hsig, ht, hadmit, hbus⟩
    obtain rfl := Option.some.inj (hstored.symm.trans hst)
    obtain rfl := Option.some.inj (hsigned.symm.trans hsig)
    obtain rfl := Option.some.inj (hbody.symm.trans ht)
    rw [htarget] at hadmit
    obtain ⟨hdomain, hts, hdated, hbelongs⟩ := hadmitted.1 hadmit
    have hkeys := (hbusiness (hempty hbelongs)).1 (hbus signed (List.mem_singleton.2 rfl))
    exact ⟨hdomain, hts, hdated, hbelongs, hkeys⟩
  · rintro ⟨hdomain, hts, hdated, hbelongs, hkeys⟩
    refine ⟨_, signed, _, hstored, hsigned, hbody, ?_, ?_⟩
    · rw [htarget]
      exact hadmitted.2 ⟨hdomain, hts, hdated, hbelongs⟩
    grind

/-- A peer accepts all that an operation broadcasts exactly if, where something is sent, the node has a valid
name and the clocks agree, the sender the operation names is one of the node, and no key of the payload is empty. -/
theorem broadcast_accepted_iff (c : Primitives) (keys : KeyPair c) (n : Node) (op : Operation) (s : Tables)
    (b : Broadcast) (h : perform n op = .ok (s, b)) (replica : Tables) (hposts : replica.posts = n.tables.posts)
    (hcomments : replica.comments = n.tables.comments) (ts : Int64) (now : Nat) :
    (∀ item ∈ broadcastPDU n b, Accepted c keys n.serverName replica item ts now) ↔
      ∀ item ∈ broadcastPDU n b,
        domain n.serverName = true ∧ isTimestampValid (unix now) ts.toInt = true ∧
          (∀ p ∈ unmarshalPDU item.pduPayload, Dated now p.createdAt) ∧
          (∃ sender ∈ op.sender n, belongsTo sender n.serverName = true) ∧ ∀ key ∈ op.keys n, key ≠ "" :=
  forall₂_congr fun _ hitem => accepted_iff c keys h hitem hposts hcomments ts now

def sampleNode : Node where
  serverName := "a.example"
  tables := {
    identities := Table.empty
    posts := Table.empty.insertOrIgnore "p-1"
      ⟨"p-1", "@bob:b.example", "Bob", "", "b.example", "", "", "", "", "", false, false, false⟩
    comments := Table.empty.insertOrIgnore "c-1" ⟨"c-1", "p-1", "@alice:a.example", "Alice", "", "", "", ""⟩
    reactions := Table.empty
    follows := Table.empty
    profiles := Table.empty }
  queries := {
    findIdentityByID _ := some ⟨.nil, "@alice:a.example", "Alice", ""⟩
    findIdentityByGaiaID _ := none
    findIdentitiesByUserID _ := some [⟨.nil, "@alice:a.example", "Alice", ""⟩]
    getCredentialsBySubject _ := some []
    isUnrevoked _ := true
    getGsnProfile _ := none
    markFilePublic _ _ := false
    updateIdentityPublicProfile _ _ _ := none
    buildTrustPassportSummary _ := ⟨false, false, false, ""⟩
    findAllFederationServers := some [⟨"b.example", false⟩] }
  now := 63919886400 * second
  rowID := .nil
  pduID _ := .nil
  pduTime _ := 1784289600
  verify _ _ _ := false
  isWebsite _ := false

def sampleUnfollow : Broadcast :=
  ⟨"gsn.unfollow.v1", "@alice:a.example", followFields ⟨"@alice:a.example", "@bob:b.example"⟩⟩

/-- The one PDU it queues is accepted. -/
theorem unfollow_accepted :
    ∃ item, broadcastPDU sampleNode sampleUnfollow = [item] ∧
      Accepted constant constantKeys "a.example" sampleNode.tables item 1784289600 sampleNode.now := by
  have hqueued : (broadcastPDU sampleNode sampleUnfollow).length = 1 := by decide +kernel
  obtain ⟨item, hitem⟩ := List.length_eq_one_iff.1 hqueued
  refine ⟨item, hitem, (broadcast_accepted_iff constant constantKeys sampleNode (.unfollowUser .nil "@bob:b.example") _
    sampleUnfollow rfl sampleNode.tables rfl rfl 1784289600 sampleNode.now).2 ?_ item (hitem ▸ List.mem_singleton.2 rfl)⟩
  intro item hmem
  refine ⟨by decide +kernel, by decide +kernel, ?_, ⟨_, rfl, by decide +kernel⟩, by decide +kernel⟩
  obtain ⟨name, i, -, -, hpayload⟩ := broadcastPDU_item hmem
  rw [unmarshalPDU_broadcast hpayload]
  intro p hp
  rw [← Option.some.inj (Option.mem_def.1 hp)]
  exact (by decide +kernel : Dated sampleNode.now 1784289600)

/-- The author of the comment deletes it: the broadcast names the author of the post, and the peer rejects it
though the names and clocks are good. -/
theorem comment_deletion_rejected :
    ∃ s b item, perform sampleNode (.deleteComment .nil "c-1") = .ok (s, b) ∧ item ∈ broadcastPDU sampleNode b ∧
      b.senderGaiaID = "@bob:b.example" ∧
      ¬ Accepted constant constantKeys "a.example" sampleNode.tables item 1784289600 sampleNode.now := by
  have hperform : perform sampleNode (.deleteComment .nil "c-1") = .ok (deleteGsnComment sampleNode.tables "c-1",
      ⟨"gsn.comment_delete.v1", "@bob:b.example", commentDeletionFields "c-1" "p-1"⟩) := rfl
  have hqueued : (broadcastPDU sampleNode
      ⟨"gsn.comment_delete.v1", "@bob:b.example", commentDeletionFields "c-1" "p-1"⟩).length = 1 := by
    decide +kernel
  obtain ⟨item, hitem⟩ := List.length_eq_one_iff.1 hqueued
  have hmem := hitem ▸ List.mem_singleton.2 rfl
  refine ⟨_, _, item, hperform, hmem, rfl, ?_⟩
  rw [show "a.example" = sampleNode.serverName from rfl, accepted_iff constant constantKeys hperform hmem rfl rfl]
  rintro ⟨-, -, -, ⟨sender, hsender, hbelongs⟩, -⟩
  have hbob : Operation.sender sampleNode (.deleteComment .nil "c-1") = some "@bob:b.example" := by decide +kernel
  rw [hbob] at hsender
  rw [← Option.some.inj (Option.mem_def.1 hsender)] at hbelongs
  exact absurd hbelongs (by decide +kernel)

end GaiaCom.Gsn
