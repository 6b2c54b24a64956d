/-
The social operations of a node, gsn/service.go: what a local user may do, the rows it changes, and the PDU
each successful operation broadcasts to the other nodes. The store is its social tables and what its
other queries answer during the call.

A broadcast names as its sender the acting identity; the two deletions name the author of the post, whoever
deletes.
-/
import GaiaCom.Core.Uuid
import GaiaCom.Federation.Wire
import GaiaCom.Gsn.Store
import GaiaCom.Store.Column

namespace GaiaCom.Gsn

open Lib Core Store Federation.Wire
open Lib.Json (Written)

/-! ## The node -/

/-- The columns of identities that the service reads. -/
structure IdentityRow where
  id : UUID
  gaiaID : String
  displayName : String
  publicRecord : String

/-- The columns of role_credentials that the service reads. -/
structure RoleCredential where
  id : String
  role : String
  validFrom : Nat
  validUntil : Nat

/-- `models.IdentityPublicProfile`. -/
structure PublicProfile where
  realName : String
  displayName : String
  bio : String
  avatar : String
  website : String

/-- `trustPassportSummaryData`. -/
structure PassportSummary where
  isVerifiedOperator : Bool
  isVerifiedGovernance : Bool
  isVerifiedPassport : Bool
  summary : String

/-- A row of federation_servers. -/
structure FederationServer where
  domain : String
  isBlocked : Bool

/-- What the queries of one call answer, `none` where one fails or finds no row. -/
structure Queries where
  findIdentityByID : UUID → Option IdentityRow
  findIdentityByGaiaID : String → Option IdentityRow
  findIdentitiesByUserID : UUID → Option (List IdentityRow)
  getCredentialsBySubject : String → Option (List RoleCredential)
  /-- The credential has no revocation, and the query says so. -/
  isUnrevoked : String → Bool
  getGsnProfile : String → Option GsnProfile
  markFilePublic : (fileID userID : UUID) → Bool
  updateIdentityPublicProfile : (userID identityID : UUID) → PublicProfile → Option IdentityRow
  buildTrustPassportSummary : IdentityRow → PassportSummary
  findAllFederationServers : Option (List FederationServer)

/-- The node during one call: its name, its tables and queries, the clock, the ids and times it draws, the
check of signatures, and whether `url.ParseRequestURI` takes a text for an http address with a host. -/
structure Node where
  serverName : String
  tables : Tables
  queries : Queries
  now : Nat
  rowID : UUID
  pduID : Nat → UUID
  pduTime : Nat → Int64
  verify : (publicKey message signature : Bytes) → Bool
  isWebsite : String → Bool

/-- Why an operation fails. -/
inductive GsnError where
  | identity | timestampFormat | skew | postFlood | commentFlood | massFollow
  | signature | image | imageAccess | postNotFound | row (cause : ConstraintError)
  | deletePost | deleteComment | selfFollow | profileField (field : String) | profile | file | query
  deriving DecidableEq, Repr

/-! ## Payloads -/

/-- A `string` field. -/
def string (s : String) : Option (Written 0) := some (.str (bytes s))

/-- A `bool` field. -/
def flag (b : Bool) : Option (Written 0) := some (.bool b)

def postFields (p : GsnPost) : List (String × Option (Written 0)) :=
  [("id", string p.id), ("gaiaId", string p.gaiaID), ("displayName", string p.displayName),
    ("avatar", string p.avatar), ("nodeId", string p.nodeID), ("timestamp", string p.timestamp),
    ("body", string p.body), ("imageAttachment", string p.imageAttachment), ("signature", string p.signature),
    ("repostOfPostId", string p.repostOfPostID), ("isVerifiedOperator", flag p.isVerifiedOperator),
    ("isVerifiedGovernance", flag p.isVerifiedGovernance), ("isVerifiedPassport", flag p.isVerifiedPassport)]

def commentFields (c : GsnComment) : List (String × Option (Written 0)) :=
  [("id", string c.id), ("postId", string c.postID), ("gaiaId", string c.gaiaID),
    ("displayName", string c.displayName), ("avatar", string c.avatar), ("timestamp", string c.timestamp),
    ("body", string c.body), ("signature", string c.signature)]

def profileFields (p : GsnProfile) : List (String × Option (Written 0)) :=
  [("identityId", string p.identityID), ("gaiaId", string p.gaiaID), ("realName", string p.realName),
    ("displayName", string p.displayName), ("description", string p.description), ("avatar", string p.avatar),
    ("website", string p.website), ("isVerifiedOperator", flag p.isVerifiedOperator),
    ("isVerifiedGovernance", flag p.isVerifiedGovernance), ("isVerifiedPassport", flag p.isVerifiedPassport),
    ("trustPassportSummary", string p.trustPassportSummary), ("followersCount", some (.int p.followersCount)),
    ("followingCount", some (.int p.followingCount)), ("updatedAt", string p.updatedAt)]

def reactionFields (r : Reaction) (action : String) : List (String × Option (Written 0)) :=
  [("postId", string r.postID), ("gaiaId", string r.gaiaID), ("emoji", string r.emoji), ("action", string action)]

def followFields (f : Follow) : List (String × Option (Written 0)) :=
  [("followerGaiaId", string f.follower), ("followingGaiaId", string f.following)]

def postDeletionFields (postID : String) : List (String × Option (Written 0)) := [("postId", string postID)]

def commentDeletionFields (commentID postID : String) : List (String × Option (Written 0)) :=
  [("commentId", string commentID), ("postId", string postID)]

/-- What an operation broadcasts. -/
structure Broadcast where
  pduType : String
  senderGaiaID : String
  payload : List (String × Option (Written 0))

def Broadcast.pdu (b : Broadcast) (dest : String) (id : UUID) (createdAt : Int64) : PDU where
  pduID := bytes id.text
  type := bytes b.pduType
  sender := bytes b.senderGaiaID
  destination := bytes dest
  payload := Utf8.encode (Written.struct b.payload).text
  algorithmSuite := []
  createdAt := createdAt
  signature := bytes "gsn-broadcast"
  pduHash := []

section Operations

variable (n : Node)

/-- `broadcastPDU`: the items it queues. -/
def broadcastPDU (b : Broadcast) : List QueueItem :=
  (n.queries.findAllFederationServers.getD []).zipIdx.filterMap fun (server, i) =>
    let dest := "@system:" ++ server.domain
    if server.isBlocked then none
    else
      match gaiaID dest with
      | .error _ => none
      | .ok () => queueOutgoingPDU n.serverName (b.pdu dest (n.pduID i) (n.pduTime i)) server.domain

/-! ## Checks -/

def required {α : Type} (err : GsnError) : Option α → Except GsnError α
  | none => .error err
  | some a => .ok a

def ensure (err : GsnError) (p : Bool) : Except GsnError Unit := if p then .ok () else .error err

def executed {α : Type} : Tables × Except ConstraintError α → Except GsnError (Tables × α)
  | (s, .ok a) => .ok (s, a)
  | (_, .error err) => .error (.row err)

@[grind =]
theorem required_ok {α : Type} {err : GsnError} {o : Option α} {a : α} : required err o = .ok a ↔ o = some a := by
  cases o <;> simp [required]

@[grind =]
theorem ensure_ok {err : GsnError} {p : Bool} {u : Unit} : ensure err p = .ok u ↔ p = true := by
  cases p <;> simp [ensure]

@[grind =]
theorem executed_ok {α : Type} {r : Tables × Except ConstraintError α} {s : Tables} {a : α} :
    executed r = .ok (s, a) ↔ r = (s, .ok a) := by
  obtain ⟨s', x⟩ := r
  cases x <;> simp [executed]

def checkTimestamp (timestamp : String) : Except GsnError Unit := do
  let t ← required .timestampFormat (parseRFC3339 timestamp.toList)
  ensure .skew (n.now - t ≤ 5 * minute ∧ t - n.now ≤ 5 * minute)

def recordedKey (publicRecord : String) : Option String := do
  let ms ← (← Json.parse publicRecord).members
  Json.stringField "identity" (← Json.structField "public_keys" ms)

def decodeBytes (size : Nat) (s : String) : Option Bytes :=
  ((hexDecode s.toList).filter fun b => b.length = size) <|> ((base64Decode s.toList).filter fun b => b.length = size)

def decodeKey (s : String) : Option Bytes := decodeBytes 32 s <|> if len s = 32 then some (bytes s) else none

/-- `verifySignature`. -/
def verifySignature (gaiaID : String) (message : Bytes) (signature : String) : Bool :=
  let parts := do
    let ident ← n.queries.findIdentityByGaiaID gaiaID
    let key := trimSpace (← recordedKey ident.publicRecord)
    if key = "" then none
    return (← decodeKey key, ← decodeBytes 64 signature)
  match parts with
  | none => false
  | some (key, sig) => n.verify key message sig

def markAttachment (err access : GsnError) (userID : UUID) (attachment : String) : Except GsnError Unit := do
  let ms ← required err ((Json.parse attachment).bind Json.members)
  let fileID ← required err ((Json.stringField "fileId" ms).bind parse)
  ensure access (n.queries.markFilePublic fileID userID)

def markImagePublic (userID : UUID) (imageAttachment : String) : Except GsnError Unit :=
  if trimSpace imageAttachment = "" then .ok () else markAttachment n .image .imageAccess userID imageAttachment

/-- `markProfileAvatarPublic`. -/
def markProfileAvatarPublic (userID : UUID) (avatar : String) : Except GsnError Unit :=
  if avatar = "" ∨ (skip "\x7b\"fileId\"".toList avatar.toList).isNone then .ok ()
  else markAttachment n .profile .file userID avatar

def activeRoles (gaiaID : String) : List String :=
  (((n.queries.getCredentialsBySubject gaiaID).getD []).filter fun cred =>
    cred.validFrom ≤ n.now ∧ n.now ≤ cred.validUntil ∧ n.queries.isUnrevoked cred.id).map RoleCredential.role

def hasAnyRole (gaiaID : String) (roles : List String) : Bool := (activeRoles n gaiaID).any fun r => r ∈ roles

/-- `strings.HasSuffix(gaiaID, ":"+serverName)`. -/
def isLocalID (gaiaID : String) : Bool := (":" ++ n.serverName).toList.isSuffixOf gaiaID.toList

def mayModerate (ident : IdentityRow) (isLocalContent : Bool) : Bool :=
  isLocalContent && hasAnyRole n ident.gaiaID ["owner", "admin", "operator"]

/-! ## Operations -/

/-- `CreatePost`. -/
def createPost (userID identityID : UUID) (body imageAttachment signature repostOfPostID timestamp : String) :
    Except GsnError (Tables × Broadcast) := do
  let ident ← required .identity (n.queries.findIdentityByID identityID)
  checkTimestamp n timestamp
  ensure .postFlood (countGsnPostsCommentsInDuration n.now n.tables ident.gaiaID (30 * second) < 5)
  ensure .signature (verifySignature n ident.gaiaID
    (bytes (timestamp ++ ":" ++ body ++ ":" ++ imageAttachment ++ ":" ++ repostOfPostID)) signature)
  markImagePublic n userID imageAttachment
  let profile := n.queries.getGsnProfile ident.gaiaID
  let post : GsnPost := {
    id := n.rowID.text
    gaiaID := ident.gaiaID
    displayName := ident.displayName
    avatar := (profile.map GsnProfile.avatar).getD ""
    nodeID := n.serverName
    timestamp := timestamp
    body := body
    imageAttachment := imageAttachment
    signature := signature
    repostOfPostID := repostOfPostID
    isVerifiedOperator := hasAnyRole n ident.gaiaID ["operator", "owner", "node_operator"]
    isVerifiedGovernance := hasAnyRole n ident.gaiaID ["owner", "admin"]
    isVerifiedPassport := (profile.map GsnProfile.isVerifiedPassport).getD false }
  let (tables, ()) ← executed (createGsnPost n.tables post)
  return (tables, ⟨"gsn.post.v1", ident.gaiaID, postFields post⟩)

/-- `DeletePost`. -/
def deletePost (userID : UUID) (postID : String) : Except GsnError (Tables × Broadcast) := do
  let post ← required .query (n.tables.posts.get? postID)
  let idents ← required .query (n.queries.findIdentitiesByUserID userID)
  let isLocalContent := decide (post.nodeID = n.serverName) || isLocalID n post.gaiaID
  ensure .deletePost (idents.any fun ident => ident.gaiaID = post.gaiaID || mayModerate n ident isLocalContent)
  return (deleteGsnPost n.tables postID, ⟨"gsn.post_delete.v1", post.gaiaID, postDeletionFields postID⟩)

/-- `DeleteComment`. -/
def deleteComment (userID : UUID) (commentID : String) : Except GsnError (Tables × Broadcast) := do
  let comment ← required .query (n.tables.comments.get? commentID)
  let post ← required .query (n.tables.posts.get? comment.postID)
  let idents ← required .query (n.queries.findIdentitiesByUserID userID)
  let isLocalContent := decide (post.nodeID = n.serverName) || isLocalID n comment.gaiaID
  ensure .deleteComment (idents.any fun ident =>
    ident.gaiaID = comment.gaiaID || ident.gaiaID = post.gaiaID || mayModerate n ident isLocalContent)
  return (deleteGsnComment n.tables commentID,
    ⟨"gsn.comment_delete.v1", post.gaiaID, commentDeletionFields commentID comment.postID⟩)

/-- `CreateComment`. -/
def createComment (identityID : UUID) (postID body signature timestamp : String) :
    Except GsnError (Tables × Broadcast) := do
  let ident ← required .identity (n.queries.findIdentityByID identityID)
  checkTimestamp n timestamp
  ensure .commentFlood (countGsnPostsCommentsInDuration n.now n.tables ident.gaiaID (30 * second) < 5)
  let _ ← required .postNotFound (n.tables.posts.get? postID)
  ensure .signature (verifySignature n ident.gaiaID (bytes (timestamp ++ ":" ++ postID ++ ":" ++ body)) signature)
  let comment : GsnComment := {
    id := n.rowID.text
    postID := postID
    gaiaID := ident.gaiaID
    displayName := ident.displayName
    avatar := ((n.queries.getGsnProfile ident.gaiaID).map GsnProfile.avatar).getD ""
    timestamp := timestamp
    body := body
    signature := signature }
  let (tables, ()) ← executed (createGsnComment n.tables comment)
  return (tables, ⟨"gsn.comment.v1", ident.gaiaID, commentFields comment⟩)

/-- `ReactToPost`. -/
def reactToPost (identityID : UUID) (postID emoji : String) : Except GsnError (Tables × Broadcast) := do
  let ident ← required .identity (n.queries.findIdentityByID identityID)
  let _ ← required .postNotFound (n.tables.posts.get? postID)
  let reaction : Reaction := ⟨postID, ident.gaiaID, emoji⟩
  let (tables, action) ← executed (toggleGsnReaction n.tables reaction)
  return (tables, ⟨"gsn.reaction.v1", ident.gaiaID, reactionFields reaction action⟩)

/-- `FollowUser`. -/
def followUser (identityID : UUID) (followingGaiaID : String) : Except GsnError (Tables × Broadcast) := do
  let ident ← required .identity (n.queries.findIdentityByID identityID)
  ensure .selfFollow (ident.gaiaID ≠ followingGaiaID)
  ensure .massFollow (countGsnFollowsInDuration n.now n.tables ident.gaiaID minute < 10)
  let follow : Follow := ⟨ident.gaiaID, followingGaiaID⟩
  return (followGsnUser n.now n.tables follow, ⟨"gsn.follow.v1", ident.gaiaID, followFields follow⟩)

/-- `UnfollowUser`. -/
def unfollowUser (identityID : UUID) (followingGaiaID : String) : Except GsnError (Tables × Broadcast) := do
  let ident ← required .identity (n.queries.findIdentityByID identityID)
  let follow : Follow := ⟨ident.gaiaID, followingGaiaID⟩
  return (unfollowGsnUser n.tables follow, ⟨"gsn.unfollow.v1", ident.gaiaID, followFields follow⟩)

/-- `normalizeIdentityPublicProfile`. -/
def normalizeIdentityPublicProfile (realName displayName bio avatar website : String) : Except GsnError PublicProfile := do
  let profile : PublicProfile :=
    ⟨trimSpace realName, trimSpace displayName, trimSpace bio, trimSpace avatar, trimSpace website⟩
  ensure (.profileField "display name") (profile.displayName ≠ "" ∧ profile.displayName.toList.length ≤ 80)
  ensure (.profileField "real name") (profile.realName.toList.length ≤ 120)
  ensure (.profileField "bio") (profile.bio.toList.length ≤ 500)
  ensure (.profileField "avatar") (len profile.avatar ≤ 4096)
  ensure (.profileField "website") (len profile.website ≤ 300)
  ensure (.profileField "website") (profile.website = "" ∨ n.isWebsite profile.website)
  return profile

/-- `UpdateProfile`; `readBack` says whether the profile is found again at the end. -/
def updateProfile (userID identityID : UUID) (realName displayName description avatar website : String)
    (readBack : Bool) : Except GsnError (Tables × Broadcast) := do
  let _ ← required .identity (n.queries.findIdentityByID identityID)
  let shared ← normalizeIdentityPublicProfile n realName displayName description avatar website
  let ident ← required .query (n.queries.updateIdentityPublicProfile userID identityID shared)
  markProfileAvatarPublic n userID shared.avatar
  let passport := n.queries.buildTrustPassportSummary ident
  let profile : GsnProfile := {
    identityID := ident.id.text
    gaiaID := ident.gaiaID
    realName := shared.realName
    displayName := shared.displayName
    description := shared.bio
    avatar := shared.avatar
    website := shared.website
    isVerifiedOperator := passport.isVerifiedOperator
    isVerifiedGovernance := passport.isVerifiedGovernance
    isVerifiedPassport := passport.isVerifiedPassport
    trustPassportSummary := passport.summary
    followersCount := 0
    followingCount := 0
    updatedAt := rfc3339 n.now }
  let (tables, ()) ← executed (updateGsnProfile n.now n.tables profile)
  ensure .query readBack
  return (tables, ⟨"gsn.profile.v1", ident.gaiaID, profileFields profile⟩)

end Operations

end GaiaCom.Gsn
