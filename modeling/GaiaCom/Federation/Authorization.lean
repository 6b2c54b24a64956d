/-
Who may change which social rows by federation: `ValidateIncomingPDUBusiness` and the GSN branch of
`persistIncomingPDU`, federation_service.go. The check compares the actor a payload names with
the sender of the PDU; the write uses the keys the payload names. The sender of a PDU that gets
here is a GaiaID, so it is ASCII.

The two agree for all types but one: a profile PDU is checked by its gaiaId and written under
its identityId.
-/
import GaiaCom.Federation.Pdu
import GaiaCom.Gsn.Store

namespace GaiaCom.Federation

open Lib Core Store Gsn

/-! ## Payloads -/

def payloadMembers (payload : String) : Option (List (String × Json)) := do (← Json.parse payload).members

def decodePost (payload : String) : Option GsnPost := do
  let ms ← payloadMembers payload
  return {
    id := ← Json.stringField "id" ms
    gaiaID := ← Json.stringField "gaiaId" ms
    displayName := ← Json.stringField "displayName" ms
    avatar := ← Json.stringField "avatar" ms
    nodeID := ← Json.stringField "nodeId" ms
    timestamp := ← Json.stringField "timestamp" ms
    body := ← Json.stringField "body" ms
    imageAttachment := ← Json.stringField "imageAttachment" ms
    signature := ← Json.stringField "signature" ms
    repostOfPostID := ← Json.stringField "repostOfPostId" ms
    isVerifiedOperator := ← Json.boolField "isVerifiedOperator" ms
    isVerifiedGovernance := ← Json.boolField "isVerifiedGovernance" ms
    isVerifiedPassport := ← Json.boolField "isVerifiedPassport" ms }

def decodeComment (payload : String) : Option GsnComment := do
  let ms ← payloadMembers payload
  return {
    id := ← Json.stringField "id" ms
    postID := ← Json.stringField "postId" ms
    gaiaID := ← Json.stringField "gaiaId" ms
    displayName := ← Json.stringField "displayName" ms
    avatar := ← Json.stringField "avatar" ms
    timestamp := ← Json.stringField "timestamp" ms
    body := ← Json.stringField "body" ms
    signature := ← Json.stringField "signature" ms }

def decodeProfile (payload : String) : Option GsnProfile := do
  let ms ← payloadMembers payload
  return {
    identityID := ← Json.stringField "identityId" ms
    gaiaID := ← Json.stringField "gaiaId" ms
    realName := ← Json.stringField "realName" ms
    displayName := ← Json.stringField "displayName" ms
    description := ← Json.stringField "description" ms
    avatar := ← Json.stringField "avatar" ms
    website := ← Json.stringField "website" ms
    isVerifiedOperator := ← Json.boolField "isVerifiedOperator" ms
    isVerifiedGovernance := ← Json.boolField "isVerifiedGovernance" ms
    isVerifiedPassport := ← Json.boolField "isVerifiedPassport" ms
    trustPassportSummary := ← Json.stringField "trustPassportSummary" ms
    followersCount := ← Json.intField "followersCount" ms
    followingCount := ← Json.intField "followingCount" ms
    updatedAt := ← Json.stringField "updatedAt" ms }

def decodeReaction (payload : String) : Option (Reaction × String) := do
  let ms ← payloadMembers payload
  let reaction : Reaction := {
    postID := ← Json.stringField "postId" ms
    gaiaID := ← Json.stringField "gaiaId" ms
    emoji := ← Json.stringField "emoji" ms }
  return (reaction, ← Json.stringField "action" ms)

def decodeFollow (payload : String) : Option Follow := do
  let ms ← payloadMembers payload
  return { follower := ← Json.stringField "followerGaiaId" ms, following := ← Json.stringField "followingGaiaId" ms }

def decodePostID (payload : String) : Option String := do Json.stringField "postId" (← payloadMembers payload)

def decodeCommentID (payload : String) : Option String := do Json.stringField "commentId" (← payloadMembers payload)

/-! ## The check -/

/-- Why a PDU is not authorized. -/
inductive BusinessError where
  | payload (what : String)
  | actor
  | postDeletion
  | commentTarget
  | commentDeletion
  | unsupported
  deriving DecidableEq, Repr

/-- `sameActor`. -/
def sameActor (p : Pdu) (actor : String) : Except BusinessError Unit :=
  if actor = "" ∨ equalFold actor p.sender = false then .error .actor else .ok ()

def checkActor {α : Type} (p : Pdu) (what : String) (decoded : Option α) (complete : α → Bool) (actor : α → String) :
    Except BusinessError Unit :=
  match decoded with
  | none => .error (.payload what)
  | some v => if complete v = false then .error (.payload what) else sameActor p (actor v)

def ownPost (s : Tables) (p : Pdu) (postID : String) : Bool :=
  (s.posts.get? postID).any fun post => equalFold post.gaiaID p.sender

def checkPostDeletion (s : Tables) (p : Pdu) : Except BusinessError Unit :=
  match decodePostID p.payload with
  | none => .error (.payload "post deletion")
  | some postID =>
    if postID = "" then .error (.payload "post deletion")
    else if ownPost s p postID = false then .error .postDeletion
    else .ok ()

def checkCommentDeletion (s : Tables) (p : Pdu) : Except BusinessError Unit :=
  match decodeCommentID p.payload, decodePostID p.payload with
  | some commentID, some postID =>
    if commentID = "" ∨ postID = "" then .error (.payload "comment deletion")
    else
      match s.comments.get? commentID with
      | none => .error .commentTarget
      | some comment =>
        if comment.postID ≠ postID then .error .commentTarget
        else if equalFold comment.gaiaID p.sender then .ok ()
        else if ownPost s p postID = false then .error .commentDeletion
        else .ok ()
  | _, _ => .error (.payload "comment deletion")

def checkKind (s : Tables) (p : Pdu) : Kind → Except BusinessError Unit
  | .post => checkActor p "post" (decodePost p.payload) (fun v => v.id != "") GsnPost.gaiaID
  | .comment => checkActor p "comment" (decodeComment p.payload) (fun v => v.id != "" && v.postID != "") GsnComment.gaiaID
  | .reaction =>
    checkActor p "reaction" (decodeReaction p.payload) (fun v => v.1.postID != "" && v.1.emoji != "") (·.1.gaiaID)
  | .profile => checkActor p "profile" (decodeProfile p.payload) (fun _ => true) GsnProfile.gaiaID
  | .follow | .unfollow =>
    checkActor p "relationship" (decodeFollow p.payload) (fun v => v.following != "") Follow.follower
  | .postDelete => checkPostDeletion s p
  | .commentDelete => checkCommentDeletion s p
  | .encrypted | .smtpLegacy => .error .unsupported

/-- `ValidateIncomingPDUBusiness`. -/
def validateIncomingPDUBusiness (s : Tables) (p : Pdu) : Except BusinessError Unit :=
  if (skip "gsn.".toList p.type.toList).isNone then .ok ()
  else
    match kind p.type with
    | some k => checkKind s p k
    | none => .error .unsupported

/-! ## The write -/

/-- Why a GSN PDU is not persisted. -/
inductive PersistError where
  | unmarshal (what : String)
  | constraint (what : String) (cause : ConstraintError)
  deriving DecidableEq, Repr

def wrap (what : String) : Tables × Except ConstraintError Unit → Tables × Except PersistError Unit
  | (s, .ok ()) => (s, .ok ())
  | (s, .error err) => (s, .error (.constraint what err))

def wrapInsert (what : String) : Tables × Except ConstraintError Unit → Tables × Except PersistError Unit
  | (s, .error .unique) => (s, .ok ())
  | r => wrap what r

def persistDecoded {α : Type} (s : Tables) (what : String) (decoded : Option α)
    (write : α → Tables × Except PersistError Unit) : Tables × Except PersistError Unit :=
  match decoded with
  | none => (s, .error (.unmarshal what))
  | some v => write v

/-- The write of one kind at clock `now`; the kinds of messages write no social row. -/
def persistKind (now : Nat) (s : Tables) (p : Pdu) : Kind → Tables × Except PersistError Unit
  | .post =>
    persistDecoded s "post" (decodePost p.payload) fun post =>
      wrapInsert "save federated GSN post" (createGsnPost s post.unverified)
  | .comment =>
    persistDecoded s "comment" (decodeComment p.payload) fun comment =>
      wrapInsert "save federated GSN comment" (createGsnComment s comment)
  | .reaction =>
    persistDecoded s "reaction" (decodeReaction p.payload) fun (reaction, action) =>
      wrap "save federated GSN reaction" (saveGsnReaction s reaction action)
  | .postDelete =>
    persistDecoded s "post delete PDU" (decodePostID p.payload) fun postID => (deleteGsnPost s postID, .ok ())
  | .commentDelete =>
    persistDecoded s "comment delete PDU" (decodeCommentID p.payload) fun commentID =>
      (deleteGsnComment s commentID, .ok ())
  | .profile =>
    persistDecoded s "profile" (decodeProfile p.payload) fun profile =>
      wrap "update federated GSN profile" (updateGsnProfile now s profile.unverified)
  | .follow => persistDecoded s "follow" (decodeFollow p.payload) fun follow => (followGsnUser now s follow, .ok ())
  | .unfollow => persistDecoded s "unfollow" (decodeFollow p.payload) fun follow => (unfollowGsnUser s follow, .ok ())
  | .encrypted | .smtpLegacy => (s, .ok ())

/-- The GSN branch of `persistIncomingPDU`. -/
def persistIncomingGsnPDU (now : Nat) (s : Tables) (p : Pdu) : Tables × Except PersistError Unit :=
  match kind p.type with
  | some k => persistKind now s p k
  | none => (s, .ok ())

/-! ## The frame -/

/-- The text names the sender. -/
def Own (sender actor : String) : Prop := equalFold actor sender = true

instance (sender actor : String) : Decidable (Own sender actor) := inferInstanceAs (Decidable (_ = true))

/-- Every row that differs belongs to the sender: posts and comments are created in the sender's name; a
deleted post is the sender's, a deleted comment is the sender's or under a post of the sender;
reactions and follows are the sender's; a profile is that of the sender's identity. -/
structure Frame (sender : String) (s s' : Tables) : Prop where
  identities : s'.identities = s.identities
  posts : s.posts.CreatedOrDeleted s'.posts (fun _ post => Own sender post.gaiaID) fun _ post => Own sender post.gaiaID
  comments : s.comments.CreatedOrDeleted s'.comments (fun _ comment => Own sender comment.gaiaID)
    fun _ comment => Own sender comment.gaiaID ∨ ∃ post ∈ s.posts.get? comment.postID, Own sender post.gaiaID
  reactions : ∀ r, s'.reactions.get? r ≠ s.reactions.get? r → Own sender r.gaiaID
  follows : ∀ f, s'.follows.get? f ≠ s.follows.get? f → Own sender f.follower
  profiles : ∀ id, s'.profiles.get? id ≠ s.profiles.get? id →
    ∃ identity ∈ s.identities.get? id, toLower identity.gaiaID = toLower sender

/-- What the check leaves open: a profile is written under the identity of the sender or as it
already stands, and a post is deleted with no reactions of others. -/
def Confined (now : Nat) (s : Tables) (p : Pdu) : Prop :=
  (kind p.type = some .profile → ∀ profile ∈ decodeProfile p.payload,
    (∃ identity ∈ s.identities.get? profile.identityID, toLower identity.gaiaID = toLower p.sender) ∨
      s.profiles.get? profile.identityID = some (profile.unverified.row now)) ∧
  (kind p.type = some .postDelete → ∀ postID ∈ decodePostID p.payload,
    ∀ r, (s.reactions.get? r).isSome → r.postID = postID → Own p.sender r.gaiaID)

theorem Frame.refl (sender : String) (s : Tables) : Frame sender s s :=
  ⟨rfl, .refl _ _ _, .refl _ _ _, fun _ h => absurd rfl h, fun _ h => absurd rfl h, fun _ h => absurd rfl h⟩

/-! ## What the check establishes -/

variable {p : Pdu}

@[grind →]
theorem checkActor_ok {α : Type} {what : String} {decoded : Option α} {complete : α → Bool}
    {actor : α → String} (h : checkActor p what decoded complete actor = .ok ()) :
    ∃ v, decoded = some v ∧ Own p.sender (actor v) := by
  unfold checkActor at h
  split at h
  · cases h
  rename_i v
  refine ⟨v, rfl, ?_⟩
  split at h
  · cases h
  unfold sameActor at h
  split at h
  · cases h
  rename_i hne
  simpa [Own] using (not_or.1 hne).2

variable {s : Tables}

theorem ownPost_eq_true {postID : String} :
    ownPost s p postID = true ↔ ∃ post ∈ s.posts.get? postID, Own p.sender post.gaiaID := by
  simp [ownPost, Option.any_eq_true, Own]

@[grind →]
theorem checkPostDeletion_ok (h : checkPostDeletion s p = .ok ()) :
    ∃ postID, decodePostID p.payload = some postID ∧ ∃ post ∈ s.posts.get? postID, Own p.sender post.gaiaID := by
  unfold checkPostDeletion at h
  split at h
  · cases h
  rename_i postID hdecode
  split at h
  · cases h
  split at h
  · cases h
  rename_i hown
  exact ⟨postID, hdecode, ownPost_eq_true.1 (by simpa using hown)⟩

@[grind →]
theorem checkCommentDeletion_ok (h : checkCommentDeletion s p = .ok ()) :
    ∃ commentID, decodeCommentID p.payload = some commentID ∧ ∀ comment ∈ s.comments.get? commentID,
      Own p.sender comment.gaiaID ∨ ∃ post ∈ s.posts.get? comment.postID, Own p.sender post.gaiaID := by
  unfold checkCommentDeletion at h
  split at h
  · rename_i commentID postID hcomment hpost
    refine ⟨commentID, hcomment, fun comment hmem => ?_⟩
    split at h
    · cases h
    split at h
    · cases h
    rename_i comment' hc
    rw [Option.mem_def, hc, Option.some.injEq] at hmem
    subst hmem
    split at h
    · cases h
    rename_i hid
    split at h
    · rename_i hown; exact .inl hown
    split at h
    · cases h
    rename_i hown
    rw [not_not.1 hid]
    exact .inr (ownPost_eq_true.1 (by simpa using hown))
  · cases h

variable {k : Kind}

theorem gsn_of_kind {type : String} (h : kind type = some k) :
    k = .encrypted ∨ k = .smtpLegacy ∨ (skip "gsn.".toList type.toList).isNone = false := by
  unfold kind at h
  split_ifs at h with h1 h2 h3 h4 h5 h6 h7 h8 h9 h10
  · cases h; exact .inl rfl
  · cases h; exact .inr (.inl rfl)
  all_goals subst type; exact .inr (.inr (by decide +kernel))

theorem checkKind_of_validate (hk : kind p.type = some k)
    (h : validateIncomingPDUBusiness s p = .ok ()) : k = .encrypted ∨ k = .smtpLegacy ∨ checkKind s p k = .ok () := by
  rcases gsn_of_kind hk with he | hs | hgsn
  · exact .inl he
  · exact .inr (.inl hs)
  · refine .inr (.inr ?_)
    unfold validateIncomingPDUBusiness at h
    rwa [hgsn, if_neg Bool.false_ne_true, hk] at h

/-! ## What the write changes -/

variable {sender : String}

theorem frame_createPost {post : GsnPost} (h : Own sender post.gaiaID) : Frame sender s (createGsnPost s post).1 := by
  unfold createGsnPost
  split
  · exact .refl _ _
  exact { Frame.refl sender s with posts := Table.createdOrDeleted_insertOrIgnore h }

theorem frame_createComment {comment : GsnComment} (h : Own sender comment.gaiaID) :
    Frame sender s (createGsnComment s comment).1 := by
  unfold createGsnComment
  split
  · exact .refl _ _
  split
  · exact .refl _ _
  exact { Frame.refl sender s with comments := Table.createdOrDeleted_insertOrIgnore h }

theorem frame_saveReaction {r : Reaction} (action : String) (h : Own sender r.gaiaID) :
    Frame sender s (saveGsnReaction s r action).1 := by
  unfold saveGsnReaction
  split
  · refine { Frame.refl sender s with reactions := fun k hk => ?_ }
    obtain ⟨-, -, -, hkey⟩ := Table.deleteWhere_changed hk
    rw [of_decide_eq_true hkey]
    exact h
  · split
    · exact .refl _ _
    refine { Frame.refl sender s with reactions := fun k hk => ?_ }
    grind [Table.insertOrIgnore_changed]

theorem frame_follow {f : Follow} (now : Nat) (h : Own sender f.follower) : Frame sender s (followGsnUser now s f) := by
  refine { Frame.refl sender s with follows := fun k hk => ?_ }
  obtain ⟨rfl, -⟩ := Table.insertOrIgnore_changed hk
  exact h

theorem frame_unfollow {f : Follow} (h : Own sender f.follower) : Frame sender s (unfollowGsnUser s f) := by
  refine { Frame.refl sender s with follows := fun k hk => ?_ }
  obtain ⟨-, -, -, hkey⟩ := Table.deleteWhere_changed hk
  rw [of_decide_eq_true hkey]
  exact h

theorem frame_deleteComment {commentID : String} (h : ∀ comment ∈ s.comments.get? commentID,
      Own sender comment.gaiaID ∨ ∃ post ∈ s.posts.get? comment.postID, Own sender post.gaiaID) :
    Frame sender s (deleteGsnComment s commentID) := by
  refine { Frame.refl sender s with comments := Table.createdOrDeleted_deleteWhere fun id comment hc hid => ?_ }
  rw [of_decide_eq_true hid] at hc
  exact h comment hc

/-- Deleting a post of the sender keeps to the sender's rows if and only if no one else reacted. -/
theorem frame_deletePost_iff {postID : String} (h : ∃ post ∈ s.posts.get? postID, Own sender post.gaiaID) :
    Frame sender s (deleteGsnPost s postID) ↔
      ∀ r, (s.reactions.get? r).isSome → r.postID = postID → Own sender r.gaiaID := by
  obtain ⟨post, hpost, hown⟩ := h
  unfold deleteGsnPost
  rw [Option.mem_def] at hpost
  simp only [hpost, Option.isNone_some, Bool.false_eq_true, if_false]
  constructor
  · intro hf r hr hid
    refine hf.reactions r ?_
    obtain ⟨u, hu⟩ := Option.isSome_iff_exists.1 hr
    simp [hu, hid]
  · intro hr
    refine { Frame.refl sender s with posts := ?_, comments := ?_, reactions := fun r hne => ?_ }
    · refine Table.createdOrDeleted_deleteWhere fun id post' hget hid => ?_
      rw [of_decide_eq_true hid, hpost] at hget
      cases hget
      exact hown
    · refine Table.createdOrDeleted_deleteWhere fun id comment _ hid => .inr ⟨post, ?_, hown⟩
      rw [of_decide_eq_true hid]
      exact hpost
    · obtain ⟨-, u, hu, hid⟩ := Table.deleteWhere_changed hne
      exact hr r (by simp [hu]) (of_decide_eq_true hid)

/-- Writing a profile keeps to the sender's rows if and only if it is the profile of the sender's
identity or nothing changes. -/
theorem frame_updateProfile_iff {now : Nat} {profile : GsnProfile} (h : (updateGsnProfile now s profile).2 = .ok ()) :
    Frame sender s (updateGsnProfile now s profile).1 ↔
      (∃ identity ∈ s.identities.get? profile.identityID, toLower identity.gaiaID = toLower sender) ∨
        s.profiles.get? profile.identityID = some (profile.row now) := by
  unfold updateGsnProfile at h ⊢
  split at h
  · cases h
  rename_i hfk
  rw [if_neg hfk]
  constructor
  · intro hf
    by_cases hsame : s.profiles.get? profile.identityID = some (profile.row now)
    · exact .inr hsame
    · refine .inl (hf.profiles profile.identityID ?_)
      simpa using Ne.symm hsame
  · intro hown
    refine { Frame.refl sender s with profiles := fun id hne => ?_ }
    grind

theorem wrap_fst (what : String) (r : Tables × Except ConstraintError Unit) : (wrap what r).1 = r.1 := by
  rcases r with ⟨s, err | ⟨⟩⟩ <;> rfl

theorem wrapInsert_fst (what : String) (r : Tables × Except ConstraintError Unit) : (wrapInsert what r).1 = r.1 := by
  rcases r with ⟨s, (_ | _) | ⟨⟩⟩ <;> rfl

theorem persistDecoded_cases {α : Type} {P : Tables → Prop} {what : String} {decoded : Option α}
    {write : α → Tables × Except PersistError Unit} (h : P s) (hwrite : ∀ v ∈ decoded, P (write v).1) :
    P (persistDecoded s what decoded write).1 := by
  cases decoded with
  | none => exact h
  | some v => exact hwrite v rfl

@[grind →]
theorem wrap_ok {what : String} {r : Tables × Except ConstraintError Unit} (h : (wrap what r).2 = .ok ()) :
    r.2 = .ok () := by
  rcases r with ⟨s, err | ⟨⟩⟩
  · cases h
  · rfl

theorem frame_persistKind {now : Nat} (h : checkKind s p k = .ok ())
    (hprofile : k ≠ .profile) (hdelete : k ≠ .postDelete) : Frame p.sender s (persistKind now s p k).1 := by
  cases k with
  | encrypted | smtpLegacy => exact .refl _ _
  | post =>
    obtain ⟨post, hdecode, hown⟩ := checkActor_ok h
    simp only [persistKind, persistDecoded, hdecode, wrapInsert_fst]
    exact frame_createPost hown
  | comment =>
    obtain ⟨comment, hdecode, hown⟩ := checkActor_ok h
    grind [persistKind, persistDecoded, wrapInsert_fst, frame_createComment]
  | reaction =>
    obtain ⟨⟨reaction, action⟩, hdecode, hown⟩ := checkActor_ok h
    grind [persistKind, persistDecoded, wrap_fst, frame_saveReaction]
  | postDelete => exact absurd rfl hdelete
  | commentDelete =>
    obtain ⟨commentID, hdecode, hown⟩ := checkCommentDeletion_ok h
    grind [persistKind, persistDecoded, frame_deleteComment]
  | profile => exact absurd rfl hprofile
  | follow =>
    obtain ⟨follow, hdecode, hown⟩ := checkActor_ok h
    grind [persistKind, persistDecoded, frame_follow]
  | unfollow =>
    obtain ⟨follow, hdecode, hown⟩ := checkActor_ok h
    grind [persistKind, persistDecoded, frame_unfollow]

/-- The authorization frame: a PDU that passes the check and is persisted changes rows of its
sender only, if and only if it is confined. -/
theorem frame_iff_confined (now : Nat) (s : Tables) (p : Pdu) (hcheck : validateIncomingPDUBusiness s p = .ok ())
    (hok : (persistIncomingGsnPDU now s p).2 = .ok ()) :
    Frame p.sender s (persistIncomingGsnPDU now s p).1 ↔ Confined now s p := by
  unfold Confined
  unfold persistIncomingGsnPDU at hok ⊢
  cases hk : kind p.type with
  | none => exact iff_of_true (.refl _ _) (by simp)
  | some k =>
    simp only [hk] at hok
    rcases checkKind_of_validate hk hcheck with rfl | rfl | hcheck
    · exact iff_of_true (.refl _ _) (by simp)
    · exact iff_of_true (.refl _ _) (by simp)
    · by_cases hprofile : k = .profile
      · subst hprofile
        obtain ⟨profile, hdecode, -⟩ := checkActor_ok hcheck
        grind [persistKind, persistDecoded, wrap_fst, frame_updateProfile_iff]
      · by_cases hdelete : k = .postDelete
        · subst hdelete
          obtain ⟨postID, hdecode, hown⟩ := checkPostDeletion_ok hcheck
          simpa [persistKind, persistDecoded, hdecode] using frame_deletePost_iff hown
        · refine iff_of_true (frame_persistKind hcheck hprofile hdelete) ⟨fun h => ?_, fun h => ?_⟩
          · exact absurd (Option.some.inj h) hprofile
          · exact absurd (Option.some.inj h) hdelete

/-! ## Two profiles -/

def localTables : Tables where
  identities := Table.empty.insertOrIgnore "identity-bob" ⟨"@bob:local.example"⟩
  posts := Table.empty
  comments := Table.empty
  reactions := Table.empty
  follows := Table.empty
  profiles := Table.empty.insertOrIgnore "identity-bob" ⟨"Bob", "", "", "", false, false, true, "", "2026-01-01T00:00:00Z"⟩

def gsnPdu (type payload : String) : Pdu where
  pduID := "018f4d1e-7614-7a3a-8e37-61f0f75a0001"
  type := type
  sender := "@mallory:remote.example"
  destination := "@system:local.example"
  payload := payload
  algorithmSuite := ""
  createdAt := 0
  signature := ""

def ownPostPdu : Pdu :=
  gsnPdu "gsn.post.v1" "\x7b\"id\":\"post-1\",\"gaiaId\":\"@mallory:remote.example\"\x7d"

def foreignProfilePdu : Pdu :=
  gsnPdu "gsn.profile.v1" "\x7b\"gaiaId\":\"@mallory:remote.example\",\"identityId\":\"identity-bob\"\x7d"

/-- A post is persisted within the frame. -/
theorem frame_of_own_post :
    Frame "@mallory:remote.example" localTables (persistIncomingGsnPDU 0 localTables ownPostPdu).1 ∧
      (persistIncomingGsnPDU 0 localTables ownPostPdu).1.posts.size = 1 :=
  ⟨(frame_iff_confined 0 localTables ownPostPdu (by decide +kernel) (by decide +kernel)).2
    ⟨fun h => absurd h (by decide), fun h => absurd h (by decide)⟩, by decide +kernel⟩

/-- The profile passes the check and is written over that of the local user. -/
theorem foreign_profile_overwritten :
    validateIncomingPDUBusiness localTables foreignProfilePdu = .ok () ∧
      (persistIncomingGsnPDU 0 localTables foreignProfilePdu).2 = .ok () ∧
      ¬ Frame "@mallory:remote.example" localTables (persistIncomingGsnPDU 0 localTables foreignProfilePdu).1 := by
  refine ⟨by decide +kernel, by decide +kernel, fun h => ?_⟩
  obtain ⟨identity, hget, hown⟩ := h.profiles "identity-bob" (by decide +kernel)
  have hbob : localTables.identities.get? "identity-bob" = some ⟨"@bob:local.example"⟩ := by decide +kernel
  rw [Option.mem_def, hbob, Option.some.injEq] at hget
  subst hget
  exact absurd hown (by decide)

end GaiaCom.Federation
