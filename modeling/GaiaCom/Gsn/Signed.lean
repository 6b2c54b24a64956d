/-
What a signature of a post or a comment is for: the text that `CreatePost` and `CreateComment` check it against.

The fields are joined by colons, and nothing says which operation is meant. A time that `time.Parse` accepts can be
read off the beginning of the text, but what follows it splits at any colon: every post has the text of a comment, and
a text determines the call only for comments without further colons (`signed_text_determines_iff`).
-/
import GaiaCom.Gsn.Service
import GaiaCom.Lib.GoTime

namespace Lib.GoTime

/-! ## A time at the beginning of a text -/

/-- What `parse` leaves of a text behind the time, without the checks of its values. -/
def scan (value : List Char) : Option (List Char) := do
  let (_, cs) ← readDigits 4 value
  let cs ← skip ['-'] cs
  let (_, cs) ← readNumber true cs
  let cs ← skip ['-'] cs
  let (_, cs) ← readNumber true cs
  let cs ← skip ['T'] cs
  let (_, cs) ← readNumber false cs
  let cs ← skip [':'] cs
  let (_, cs) ← readNumber true cs
  let cs ← skip [':'] cs
  let (_, cs) ← readNumber true cs
  let (_, cs) ← readZone (readFraction cs).2
  return cs

theorem scan_of_parse {value : List Char} (h : (parse value).isSome = true) : scan value = some [] := by
  obtain ⟨t, ht⟩ := Option.isSome_iff_exists.1 h
  simp only [parse, Option.bind_eq_bind, Option.bind_eq_some_iff, Prod.exists] at ht
  obtain ⟨y, c1, h1, c2, h2, mo, c3, h3, c4, h4, d, c5, h5, c6, h6, hr, c7, h7, c8, h8, mi, c9, h9, c10, h10, s, c11, h11,
    zone, c12, h12, hlast⟩ := ht
  simp only [scan, Option.bind_eq_bind, h1, h2, h3, h4, h5, h6, h7, h8, h9, h10, h11, h12, Option.bind_some, Option.pure_def]
  split at hlast
  · cases hlast
  rename_i hvalues
  simp only [not_or, not_not] at hvalues
  rw [hvalues.1]

section Append

variable {rest cs cs' : List Char} {n : Nat}

theorem readDigits_append {w : Nat} (h : readDigits w cs = some (n, cs')) :
    readDigits w (cs ++ rest) = some (n, cs' ++ rest) := by
  induction w generalizing cs n with
  | zero =>
    obtain ⟨rfl, rfl⟩ := Prod.mk.inj (Option.some.inj h)
    rfl
  | succ w ih =>
    cases cs with
    | nil => cases h
    | cons c cs =>
      simp only [readDigits, List.cons_append] at h ⊢
      split at h
      · rename_i hdigit
        obtain ⟨⟨m, cs1⟩, hm, heq⟩ := Option.map_eq_some_iff.1 h
        obtain ⟨rfl, rfl⟩ := Prod.mk.inj heq
        rw [if_pos hdigit, ih hm, Option.map_some]
      · cases h

theorem skip_append_of_some : ∀ {a cs : List Char}, skip a cs = some cs' → skip a (cs ++ rest) = some (cs' ++ rest)
  | [], cs, h => by
    cases h
    rfl
  | a :: as, [], h => by cases h
  | a :: as, c :: cs, h => by
    simp only [skip, List.cons_append] at h ⊢
    split at h
    · rw [if_pos ‹_›]
      exact skip_append_of_some h
    · cases h

variable (hrest : ∀ c ∈ rest.head?, isDigit c = false)
include hrest

theorem readNumber_append {fixed : Bool} (h : readNumber fixed cs = some (n, cs')) :
    readNumber fixed (cs ++ rest) = some (n, cs' ++ rest) := by
  cases cs with
  | nil => cases h
  | cons a cs =>
    cases cs with
    | nil =>
      -- one digit at the end: what follows is no digit
      simp only [readNumber] at h
      split at h
      · rename_i hdigit
        obtain ⟨rfl, rfl⟩ := Prod.mk.inj (Option.some.inj h)
        cases rest with
        | nil => exact if_pos hdigit
        | cons b rest => simp [readNumber, hdigit.1, hdigit.2, hrest b rfl]
      · cases h
    | cons b cs =>
      simp only [readNumber, List.cons_append] at h ⊢
      grind

theorem readFraction_append (hhead : ∀ c ∈ rest.head?, c ≠ '.' ∧ c ≠ ',') :
    (readFraction (cs ++ rest)).2 = (readFraction cs).2 ++ rest := by
  cases cs with
  | nil =>
    cases rest with
    | nil => rfl
    | cons b rest =>
      obtain ⟨h1, h2⟩ := hhead b rfl
      simp [readFraction, h1, h2]
  | cons c cs =>
    have hstop : rest.takeWhile isDigit = [] ∧ rest.dropWhile isDigit = rest := by
      cases rest with
      | nil => exact ⟨rfl, rfl⟩
      | cons b rest => simp [hrest b rfl]
    have htake : (cs ++ rest).takeWhile isDigit = cs.takeWhile isDigit := by
      rw [List.takeWhile_append]
      split
      · rename_i hall
        rw [hstop.1, List.append_nil]
        exact ((List.takeWhile_prefix isDigit).eq_of_length hall).symm
      · rfl
    have hdrop : (cs ++ rest).dropWhile isDigit = cs.dropWhile isDigit ++ rest := by
      rw [List.dropWhile_append]
      split
      · rename_i hall
        rw [hstop.2, List.isEmpty_iff.1 hall, List.nil_append]
      · rfl
    simp only [readFraction, List.cons_append, List.head?_cons, List.tail_cons, htake, hdrop]
    grind

theorem readZone_append {zone : Int} (h : readZone cs = some (zone, cs')) :
    ∃ zone', readZone (cs ++ rest) = some (zone', cs' ++ rest) := by
  cases cs with
  | nil => cases h
  | cons c cs =>
    refine ⟨zone, ?_⟩
    unfold readZone at h ⊢
    simp only [List.cons_append, List.head?_cons, List.tail_cons, Option.some.injEq] at h ⊢
    split at h
    · obtain ⟨rfl, rfl⟩ := Prod.mk.inj (Option.some.inj h)
      rw [if_pos ‹_›]
    · rw [if_neg ‹_›]
      simp only [Option.bind_eq_bind, Option.bind_some, Option.bind_eq_some_iff, Prod.exists] at h ⊢
      obtain ⟨hr, c1, h1, c2, h2, mm, c3, h3, hlast⟩ := h
      refine ⟨hr, c1 ++ rest, readNumber_append hrest h1, c2 ++ rest, skip_append_of_some h2, mm, c3 ++ rest,
        readNumber_append hrest h3, ?_⟩
      grind

end Append

/-- A time is read off a text up to a colon that follows it. -/
theorem scan_append {value rest : List Char} (h : (parse value).isSome = true) :
    scan (value ++ ':' :: rest) = some (':' :: rest) := by
  have hdigit : ∀ c ∈ (':' :: rest).head?, isDigit c = false := by
    rintro c hc
    cases hc
    decide
  have hpoint : ∀ c ∈ (':' :: rest).head?, c ≠ '.' ∧ c ≠ ',' := by
    rintro c hc
    cases hc
    decide
  have hscan := scan_of_parse h
  simp only [scan, Option.bind_eq_bind, Option.bind_eq_some_iff, Prod.exists, Option.pure_def, Option.some.injEq] at hscan
  obtain ⟨y, c1, h1, c2, h2, mo, c3, h3, c4, h4, d, c5, h5, c6, h6, hr, c7, h7, c8, h8, mi, c9, h9, c10, h10, s, c11, h11,
    zone, c12, h12, rfl⟩ := hscan
  obtain ⟨zone', hzone⟩ := readZone_append hdigit h12
  rw [← readFraction_append hdigit hpoint] at hzone
  simp only [scan, Option.bind_eq_bind, readDigits_append h1, skip_append_of_some h2, readNumber_append hdigit h3,
    skip_append_of_some h4, readNumber_append hdigit h5, skip_append_of_some h6, readNumber_append hdigit h7,
    skip_append_of_some h8, readNumber_append hdigit h9, skip_append_of_some h10, readNumber_append hdigit h11, hzone,
    Option.bind_some, Option.pure_def, List.nil_append]

theorem parse_prefix {a b r s : List Char} (ha : (parse a).isSome = true) (hb : (parse b).isSome = true)
    (h : a ++ ':' :: r = b ++ ':' :: s) : a = b ∧ r = s := by
  have hrest : ':' :: r = ':' :: s := Option.some.inj ((scan_append ha).symm.trans (h ▸ scan_append hb))
  rw [hrest] at h
  exact ⟨List.append_cancel_right h, (List.cons.inj hrest).2⟩

end Lib.GoTime

namespace GaiaCom.Gsn

open Lib

/-! ## Signed calls -/

/-- A call whose signature is checked, with the fields that are signed. -/
inductive SignedCall where
  | post (timestamp body imageAttachment repostOfPostID : String)
  | comment (timestamp postID body : String)
  deriving DecidableEq

namespace SignedCall

def timestamp : SignedCall → String
  | post timestamp _ _ _ => timestamp
  | comment timestamp _ _ => timestamp

/-- The text behind `msgBytes` in `CreatePost` and in `CreateComment`. -/
def text : SignedCall → String
  | post timestamp body imageAttachment repostOfPostID =>
    timestamp ++ ":" ++ body ++ ":" ++ imageAttachment ++ ":" ++ repostOfPostID
  | comment timestamp postID body => timestamp ++ ":" ++ postID ++ ":" ++ body

/-- `time.Parse(time.RFC3339, timestamp)` succeeds. -/
def Timed (c : SignedCall) : Prop := (GoTime.parse c.timestamp.toList).isSome = true

instance (c : SignedCall) : Decidable c.Timed := inferInstanceAs (Decidable (_ = _))

/-- What is signed after the time and the colon behind it. -/
def rest : SignedCall → List Char
  | post _ body imageAttachment repostOfPostID =>
    body.toList ++ ':' :: (imageAttachment.toList ++ ':' :: repostOfPostID.toList)
  | comment _ postID body => postID.toList ++ ':' :: body.toList

theorem toList_text (c : SignedCall) : c.text.toList = c.timestamp.toList ++ ':' :: c.rest := by
  cases c <;> simp [text, timestamp, rest]

/-- The time and the rest of a text are determined. -/
theorem parts_of_text {c c' : SignedCall} (hc : c.Timed) (hc' : c'.Timed) (h : c'.text = c.text) :
    c'.timestamp = c.timestamp ∧ c'.rest = c.rest := by
  have hlist := congrArg String.toList h
  rw [toList_text, toList_text] at hlist
  obtain ⟨htime, hrest⟩ := GoTime.parse_prefix hc' hc hlist
  exact ⟨String.toList_injective htime, hrest⟩

/-- At the first colon a list splits in one way. -/
theorem split_colon {a b x y : List Char} (ha : ':' ∉ a) (hb : ':' ∉ b) (h : a ++ ':' :: x = b ++ ':' :: y) :
    a = b ∧ x = y := by
  induction a generalizing b with
  | nil =>
    cases b with
    | nil => exact ⟨rfl, (List.cons.inj h).2⟩
    | cons c b => exact absurd (List.mem_cons.2 (.inl (List.cons.inj h).1)) hb
  | cons c a ih =>
    cases b with
    | nil => exact absurd (List.mem_cons.2 (.inl (List.cons.inj h).1.symm)) ha
    | cons d b =>
      obtain ⟨rfl, htail⟩ := List.cons.inj h
      obtain ⟨rfl, rfl⟩ := ih (fun hmem => ha (List.mem_cons_of_mem _ hmem)) (fun hmem => hb (List.mem_cons_of_mem _ hmem)) htail
      exact ⟨rfl, rfl⟩

end SignedCall

open SignedCall

/-- A signature for a call is one for no other call exactly if the call is a comment, and neither the id of its post
nor its body has a colon. -/
theorem signed_text_determines_iff (c : SignedCall) (hc : c.Timed) :
    (∀ c' : SignedCall, c'.Timed → c'.text = c.text → c' = c) ↔
      ∃ timestamp postID body, c = .comment timestamp postID body ∧ ':' ∉ postID.toList ∧ ':' ∉ body.toList := by
  constructor
  · intro h
    cases c with
    | post timestamp body imageAttachment repostOfPostID =>
      -- the text of a post is that of a comment
      have heq := h (.comment timestamp body (imageAttachment ++ ":" ++ repostOfPostID)) hc (by simp [text, String.append_assoc])
      cases heq
    | comment timestamp postID body =>
      refine ⟨timestamp, postID, body, rfl, fun hmem => ?_, fun hmem => ?_⟩
      · obtain ⟨a, b, hsplit⟩ := List.append_of_mem hmem
        have hpost : postID = String.ofList a ++ ":" ++ String.ofList b := String.toList_injective (by simp [hsplit])
        have heq := h (.comment timestamp (String.ofList a) (String.ofList b ++ ":" ++ body)) hc
          (by simp [text, hpost, String.append_assoc])
        have hlength := congrArg String.length (SignedCall.comment.inj heq).2.1
        rw [hpost] at hlength
        simp only [String.length_append, show ":".length = 1 from rfl] at hlength
        omega
      · obtain ⟨a, b, hsplit⟩ := List.append_of_mem hmem
        have hbody : body = String.ofList a ++ ":" ++ String.ofList b := String.toList_injective (by simp [hsplit])
        have heq := h (.post timestamp postID (String.ofList a) (String.ofList b)) hc
          (by simp [text, hbody, String.append_assoc])
        cases heq
  · rintro ⟨timestamp, postID, body, rfl, hpost, hbody⟩ c' hc' htext
    obtain ⟨htime, hrest⟩ := parts_of_text hc hc' htext
    -- the rest has one colon
    have hcount : c'.rest.count ':' = 1 := by
      rw [hrest, rest, List.count_append, List.count_cons_self, List.count_eq_zero.2 hpost, List.count_eq_zero.2 hbody]
    cases c' with
    | post timestamp' body' imageAttachment repostOfPostID =>
      simp only [rest, List.count_append, List.count_cons_self] at hcount
      omega
    | comment timestamp' postID' body' =>
      simp only [rest, List.count_append, List.count_cons_self] at hcount
      have hpost' : ':' ∉ postID'.toList := List.count_eq_zero.1 (by omega)
      obtain ⟨hid, htail⟩ := split_colon hpost' hpost hrest
      rw [show timestamp' = timestamp from htime, String.toList_injective hid, String.toList_injective htail]

theorem comment_text_determined : (SignedCall.comment "2026-07-17T12:00:00Z" "p1" "hello").Timed ∧
    ∀ c' : SignedCall, c'.Timed → c'.text = (SignedCall.comment "2026-07-17T12:00:00Z" "p1" "hello").text →
      c' = .comment "2026-07-17T12:00:00Z" "p1" "hello" :=
  ⟨by decide +kernel, (signed_text_determines_iff (.comment "2026-07-17T12:00:00Z" "p1" "hello") (by decide +kernel)).2
    ⟨_, _, _, rfl, by decide +kernel, by decide +kernel⟩⟩

/-- The signature of a post is one for a comment on the post whose id is its body. -/
theorem post_signature_moved :
    (SignedCall.post "2026-07-17T12:00:00Z" "p1" "" "").Timed ∧ (SignedCall.comment "2026-07-17T12:00:00Z" "p1" ":").Timed ∧
      (SignedCall.post "2026-07-17T12:00:00Z" "p1" "" "").text = (SignedCall.comment "2026-07-17T12:00:00Z" "p1" ":").text := by
  decide +kernel

end GaiaCom.Gsn
