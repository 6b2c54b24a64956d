/-
Scheduled posts of public channels: `CreatePublicChannelPostForAdmin` and `FindPublicChannelPostsForUser` of
sql_store_rooms_public_channels.go.

The time a post is scheduled for is stored as the client wrote it, and a post is shown if that text is not behind the
text of the current time in UTC. Texts compare field by field whatever the offset is, and in one second by what follows
the seconds. So a post is shown when it is due exactly if that comparison happens to agree with the instants
(`shown_when_due_iff`).
-/
import GaiaCom.Core.Uuid
import GaiaCom.Lib.GoTime
import GaiaCom.Lib.Table
import GaiaCom.Store.Time

namespace GaiaCom.PublicChannels

open Lib Core GaiaCom.Store

/-! ## Posts -/

/-- The columns of public_channel_posts that a query selects or orders by. -/
structure Post where
  channelID : UUID
  createdAt : String
  pinnedAt : String
  scheduledFor : String
  deriving DecidableEq

/-- Posts, the administrators of channels, and the users of identities. -/
structure Database where
  posts : Table UUID Post
  admins : List (UUID × UUID)
  identities : Table UUID UUID

/-- `UserIsPublicChannelAdmin`, and the subquery of the selection. -/
def userIsPublicChannelAdmin (db : Database) (userID channelID : UUID) : Bool :=
  db.admins.any fun a => a.1 = channelID && db.identities.get? a.2 = some userID

/-- `CreatePublicChannelPostForAdmin` with the id it draws. -/
def createPublicChannelPostForAdmin (db : Database) (now : Nat) (userID authorIdentityID postID channelID : UUID)
    (scheduledFor : String) : Option Database :=
  if userIsPublicChannelAdmin db userID channelID && db.identities.get? authorIdentityID = some userID then
    some { db with posts := db.posts.insertOrIgnore postID ⟨channelID, formatTime now, "", scheduledFor⟩ }
  else none

/-- The `WHERE` clause. -/
def isShown (db : Database) (now : Nat) (userID channelID : UUID) (post : Post) : Bool :=
  post.channelID = channelID && (post.scheduledFor = "" || post.scheduledFor ≤ formatTime now ||
    userIsPublicChannelAdmin db userID channelID)

/-- The `ORDER BY` clause: pinned posts first, and the latest first. -/
def isBefore (a b : UUID × Post) : Bool :=
  if a.2.pinnedAt = "" && b.2.pinnedAt ≠ "" then false
  else if a.2.pinnedAt ≠ "" && b.2.pinnedAt = "" then true
  else b.2.pinnedAt < a.2.pinnedAt || a.2.pinnedAt = b.2.pinnedAt && b.2.createdAt ≤ a.2.createdAt

/-- `FindPublicChannelPostsForUser`. -/
def findPublicChannelPostsForUser (db : Database) (now : Nat) (userID channelID : UUID) (limit : Int) :
    List (UUID × Post) :=
  let limit := if limit ≤ 0 ∨ 100 < limit then 50 else limit.toNat
  ((db.posts.rows.filter fun r => isShown db now userID channelID r.2).mergeSort isBefore).take limit

/-- The limit is large enough for all posts that are shown. -/
def FitsLimit (db : Database) (now : Nat) (userID channelID : UUID) (limit : Int) : Prop :=
  (db.posts.rows.filter fun r => isShown db now userID channelID r.2).length ≤
    if limit ≤ 0 ∨ 100 < limit then 50 else limit.toNat

instance (db : Database) (now : Nat) (userID channelID : UUID) (limit : Int) :
    Decidable (FitsLimit db now userID channelID limit) :=
  inferInstanceAs (Decidable (_ ≤ _))

/-! ## RFC 3339 -/

/-- The end of a time: `Z` or `z`, or an offset. -/
inductive Zone where
  | utc (lower : Bool)
  | offset (minus : Bool) (hours minutes : Nat)
  deriving DecidableEq

def Zone.text : Zone → List Char
  | utc lower => [if lower then 'z' else 'Z']
  | offset minus hours minutes => (if minus then '-' else '+') :: (pad 2 hours ++ ':' :: pad 2 minutes)

def Zone.seconds : Zone → Int
  | utc _ => 0
  | offset minus hours minutes => (if minus then -1 else 1) * ((hours * 60 + minutes) * 60 : Nat)

/-- A time as RFC 3339 has it: the date, `T` or `t`, the time, a fraction of any number of digits, and the zone. -/
structure Rfc3339 where
  year : Nat
  month : Nat
  day : Nat
  lower : Bool
  hour : Nat
  minute : Nat
  second : Nat
  fraction : List (Fin 10)
  zone : Zone
  hyear : year ≤ 9999
  hmonth : 1 ≤ month ∧ month ≤ 12
  hday : 1 ≤ day ∧ day ≤ Calendar.monthLength (Calendar.isLeap year) month
  htime : hour ≤ 23 ∧ minute ≤ 59 ∧ second ≤ 60

namespace Rfc3339

def date (w : Rfc3339) : List Nat := [w.year, w.month, w.day]
def time (w : Rfc3339) : List Nat := [w.hour, w.minute, w.second]

def dateFields : List (Nat × List Char) := [(4, ['-']), (2, ['-']), (2, [])]
def timeFields : List (Nat × List Char) := [(2, [':']), (2, [':']), (2, [])]

/-- What follows the seconds. -/
def tail (w : Rfc3339) : List Char :=
  (if w.fraction = [] then [] else '.' :: w.fraction.map fun d => digit d) ++ w.zone.text

def text (w : Rfc3339) : String :=
  String.ofList (fields dateFields w.date ++ (if w.lower then 't' else 'T') :: (fields timeFields w.time ++ w.tail))

/-- The whole seconds of the instant, counted from the year 1. -/
def instant (w : Rfc3339) : Int :=
  GoTime.dayOf w.year w.month w.day * 86400 + (w.hour * 3600 + w.minute * 60 + w.second : Nat) - w.zone.seconds

/-- The fraction as a number of units of its last digit. -/
def numerator (w : Rfc3339) : Nat := w.fraction.foldl (fun n d => 10 * n + d) 0

/-- The instant is at or before now. -/
def Due (w : Rfc3339) (now : Nat) : Prop :=
  w.instant < secondOf now ∨ w.instant = secondOf now ∧ w.numerator * 10 ^ 9 ≤ nanoOf now * 10 ^ w.fraction.length

instance (w : Rfc3339) (now : Nat) : Decidable (w.Due now) := inferInstanceAs (Decidable (_ ∨ _))

/-- The fields as they are written come before those of now in UTC: first the dates, on one date and behind `T` the
times, and in one second what follows the seconds. -/
def WrittenBefore (w : Rfc3339) (now : Nat) : Prop :=
  w.date < (dateValues now).take 3 ∨ w.date = (dateValues now).take 3 ∧ w.lower = false ∧
    (w.time < (dateValues now).drop 3 ∨
      w.time = (dateValues now).drop 3 ∧ w.tail ≤ Store.fraction (nanoOf now) ++ ['Z'])

theorem fits_date (w : Rfc3339) : Lib.Fits dateFields w.date := by
  have hlength : Calendar.monthLength (Calendar.isLeap w.year) w.month ≤ 31 := by
    obtain ⟨h1, h12⟩ := w.hmonth
    generalize w.month = m at h1 h12
    cases Calendar.isLeap w.year <;> interval_cases m <;> decide
  have := w.hyear
  have := w.hmonth
  have := w.hday
  refine ⟨?_, ?_, ?_, trivial⟩ <;> norm_num <;> omega

theorem fits_time (w : Rfc3339) : Lib.Fits timeFields w.time := by
  have := w.htime
  refine ⟨?_, ?_, ?_, trivial⟩ <;> norm_num <;> omega

/-- The text of now falls into the same parts. -/
theorem rfc3339Nano_parts (t : Nat) : rfc3339Nano t = fields dateFields ((dateValues t).take 3) ++
    'T' :: (fields timeFields ((dateValues t).drop 3) ++ (Store.fraction (nanoOf t) ++ ['Z'])) := by
  simp [rfc3339Nano, dateValues, dateLayout, dateFields, timeFields, fields]

theorem eq_of_fields {fs : List (Nat × List Char)} {vs ws : List Nat} (hv : Lib.Fits fs vs) (hw : Lib.Fits fs ws) :
    fields fs vs = fields fs ws ↔ vs = ws := by
  refine ⟨fun h => ?_, fun h => by rw [h]⟩
  rcases lt_trichotomy vs ws with hlt | heq | hlt
  · exact absurd (h ▸ (fields_lt_iff hv hw).2 hlt) (lt_irrefl _)
  · exact heq
  · exact absurd (h ▸ (fields_lt_iff hw hv).2 hlt) (lt_irrefl _)

theorem text_le_iff (w : Rfc3339) {now : Nat} (hnow : InRange now) : w.text ≤ formatTime now ↔ w.WrittenBefore now := by
  have hdates := dateValues_fits 'T' hnow.2
  have hdate : Lib.Fits dateFields ((dateValues now).take 3) := ⟨hdates.1, hdates.2.1, hdates.2.2.1, trivial⟩
  have htime : Lib.Fits timeFields ((dateValues now).drop 3) := hdates.2.2.2
  rw [← not_lt, String.lt_iff_toList_lt, text, String.toList_ofList, formatTime_of_ne hnow.1, rfc3339Nano_parts,
    append_lt_append_iff (length_fields hdate w.fits_date), fields_lt_iff hdate w.fits_date,
    eq_of_fields hdate w.fits_date, List.cons_lt_cons_iff, append_lt_append_iff (length_fields htime w.fits_time),
    fields_lt_iff htime w.fits_time, eq_of_fields htime w.fits_time, ← not_le (a := w.tail), WrittenBefore]
  have horder := lt_trichotomy ((dateValues now).take 3) w.date
  have horder' := lt_trichotomy ((dateValues now).drop 3) w.time
  have hirrefl := lt_irrefl ((dateValues now).take 3)
  have hasymm : ∀ a b : List Nat, a < b → ¬ b < a := fun a b => not_lt_of_gt
  cases w.lower with
  | true =>
    have hbehind : ('T' : Char) < 't' := by decide
    simp only [if_true, hbehind, true_or, Bool.true_eq_false, false_and, and_false, or_false]
    grind
  | false =>
    have hsame : ¬ ('T' : Char) < 'T' := lt_irrefl _
    simp only [Bool.false_eq_true, if_false, hsame, false_or, true_and]
    grind

end Rfc3339

open Rfc3339

/-- One o'clock in the afternoon, one hour ahead of UTC. -/
def sampleTime : Rfc3339 where
  year := 2026
  month := 7
  day := 17
  lower := false
  hour := 13
  minute := 0
  second := 0
  fraction := []
  zone := .offset false 1 0
  hyear := by decide
  hmonth := by decide
  hday := by decide
  htime := by decide

def sampleChannel : Database :=
  ⟨⟨[(.ofByte 3, ⟨.ofByte 7, "", "", sampleTime.text⟩)], by decide⟩, [], Table.empty⟩

end GaiaCom.PublicChannels
