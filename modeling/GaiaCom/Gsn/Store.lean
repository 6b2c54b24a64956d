/-
The social tables, sql_store_gsn.go: posts, comments, reactions, follows and profiles, with the
identities the profiles refer to. Foreign keys are enforced: a comment or a reaction needs its
post and a profile needs its identity; deleting a post deletes what refers to it. A taken
key is reported before a missing reference, which SQLite looks for at the end of the statement.
-/
import GaiaCom.Lib.Table
import GaiaCom.Store.Time

namespace GaiaCom.Gsn

open Lib Store

/-! ## Rows -/

/-- `models.GsnPost`. -/
structure GsnPost where
  id : String
  gaiaID : String
  displayName : String
  avatar : String
  nodeID : String
  timestamp : String
  body : String
  imageAttachment : String
  signature : String
  repostOfPostID : String
  isVerifiedOperator : Bool
  isVerifiedGovernance : Bool
  isVerifiedPassport : Bool
  deriving DecidableEq

def GsnPost.unverified (post : GsnPost) : GsnPost :=
  { post with isVerifiedOperator := false, isVerifiedGovernance := false, isVerifiedPassport := false }

/-- `models.GsnComment`. -/
structure GsnComment where
  id : String
  postID : String
  gaiaID : String
  displayName : String
  avatar : String
  timestamp : String
  body : String
  signature : String
  deriving DecidableEq

/-- `models.GsnProfile`. -/
structure GsnProfile where
  identityID : String
  gaiaID : String
  realName : String
  displayName : String
  description : String
  avatar : String
  website : String
  isVerifiedOperator : Bool
  isVerifiedGovernance : Bool
  isVerifiedPassport : Bool
  trustPassportSummary : String
  followersCount : Int
  followingCount : Int
  updatedAt : String
  deriving DecidableEq

def GsnProfile.unverified (profile : GsnProfile) : GsnProfile :=
  { profile with isVerifiedOperator := false, isVerifiedGovernance := false, isVerifiedPassport := false }

@[simp, grind =] theorem GsnProfile.unverified_identityID (profile : GsnProfile) :
    profile.unverified.identityID = profile.identityID := rfl

/-- A row of gsn_profiles under its identity_id. -/
structure ProfileRow where
  displayName : String
  description : String
  avatar : String
  website : String
  isVerifiedOperator : Bool
  isVerifiedGovernance : Bool
  isVerifiedPassport : Bool
  trustPassportSummary : String
  updatedAt : String
  deriving DecidableEq

/-- The columns of a row of identities that the social tables depend on. -/
structure Identity where
  gaiaID : String
  deriving DecidableEq

/-- A reaction is its key: post, author and emoji. -/
structure Reaction where
  postID : String
  gaiaID : String
  emoji : String
  deriving DecidableEq

/-- A follow is its key, with the time it began. -/
structure Follow where
  follower : String
  following : String
  deriving DecidableEq

/-- The tables. -/
structure Tables where
  identities : Table String Identity
  posts : Table String GsnPost
  comments : Table String GsnComment
  reactions : Table Reaction Unit
  follows : Table Follow String
  profiles : Table String ProfileRow

/-- The constraint a statement violates; such a statement changes nothing. -/
inductive ConstraintError where
  | unique
  | foreignKey
  deriving DecidableEq, Repr

/-- `t.Format(time.RFC3339)`. -/
def rfc3339 (now : Nat) : String := formatTime (now / second * second)

/-! ## Statements -/

/-- `CreateGsnPost`. -/
def createGsnPost (s : Tables) (post : GsnPost) : Tables × Except ConstraintError Unit :=
  if (s.posts.get? post.id).isSome then (s, .error .unique)
  else ({ s with posts := s.posts.insertOrIgnore post.id post }, .ok ())

/-- `DeleteGsnPost`, with the cascade to comments and reactions. -/
def deleteGsnPost (s : Tables) (postID : String) : Tables :=
  if (s.posts.get? postID).isNone then s
  else
    { s with
      posts := s.posts.deleteWhere fun id _ => id = postID
      comments := s.comments.deleteWhere fun _ c => c.postID = postID
      reactions := s.reactions.deleteWhere fun r _ => r.postID = postID }

/-- `CreateGsnComment`. -/
def createGsnComment (s : Tables) (comment : GsnComment) : Tables × Except ConstraintError Unit :=
  if (s.comments.get? comment.id).isSome then (s, .error .unique)
  else if (s.posts.get? comment.postID).isNone then (s, .error .foreignKey)
  else ({ s with comments := s.comments.insertOrIgnore comment.id comment }, .ok ())

/-- `DeleteGsnComment`. -/
def deleteGsnComment (s : Tables) (commentID : String) : Tables :=
  { s with comments := s.comments.deleteWhere fun id _ => id = commentID }

/-- `SaveGsnReaction`: "remove" removes, every other action adds. -/
def saveGsnReaction (s : Tables) (r : Reaction) (action : String) : Tables × Except ConstraintError Unit :=
  if action = "remove" then ({ s with reactions := s.reactions.deleteWhere fun k _ => k = r }, .ok ())
  else if (s.reactions.get? r).isNone ∧ (s.posts.get? r.postID).isNone then (s, .error .foreignKey)
  else ({ s with reactions := s.reactions.insertOrIgnore r () }, .ok ())

/-- `ToggleGsnReaction`: what stands is removed and what does not is added; the action taken. -/
def toggleGsnReaction (s : Tables) (r : Reaction) : Tables × Except ConstraintError String :=
  if (s.reactions.get? r).isSome then ({ s with reactions := s.reactions.deleteWhere fun k _ => k = r }, .ok "remove")
  else if (s.posts.get? r.postID).isNone then (s, .error .foreignKey)
  else ({ s with reactions := s.reactions.insertOrIgnore r () }, .ok "add")

/-- `CountGsnPostsCommentsInDuration`. -/
def countGsnPostsCommentsInDuration (now : Nat) (s : Tables) (gaiaID : String) (duration : Nat) : Nat :=
  let since := rfc3339 (now - duration)
  (s.posts.countWhere fun _ post => post.gaiaID = gaiaID && since ≤ post.timestamp) +
    s.comments.countWhere fun _ comment => comment.gaiaID = gaiaID && since ≤ comment.timestamp

/-- `CountGsnFollowsInDuration`. -/
def countGsnFollowsInDuration (now : Nat) (s : Tables) (follower : String) (duration : Nat) : Nat :=
  s.follows.countWhere fun f createdAt => f.follower = follower && rfc3339 (now - duration) ≤ createdAt

/-- `FollowGsnUser`. -/
def followGsnUser (now : Nat) (s : Tables) (f : Follow) : Tables :=
  { s with follows := s.follows.insertOrIgnore f (rfc3339 now) }

/-- `UnfollowGsnUser`. -/
def unfollowGsnUser (s : Tables) (f : Follow) : Tables :=
  { s with follows := s.follows.deleteWhere fun k _ => k = f }

/-- The row `UpdateGsnProfile` writes. -/
def GsnProfile.row (now : Nat) (profile : GsnProfile) : ProfileRow where
  displayName := profile.displayName
  description := profile.description
  avatar := profile.avatar
  website := profile.website
  isVerifiedOperator := profile.isVerifiedOperator
  isVerifiedGovernance := profile.isVerifiedGovernance
  isVerifiedPassport := profile.isVerifiedPassport
  trustPassportSummary := profile.trustPassportSummary
  updatedAt := rfc3339 now

/-- `UpdateGsnProfile`: inserts the row of the profile's identity or replaces it. -/
def updateGsnProfile (now : Nat) (s : Tables) (profile : GsnProfile) : Tables × Except ConstraintError Unit :=
  if (s.profiles.get? profile.identityID).isNone ∧ (s.identities.get? profile.identityID).isNone then
    (s, .error .foreignKey)
  else ({ s with profiles := s.profiles.put profile.identityID (profile.row now) }, .ok ())

end GaiaCom.Gsn
