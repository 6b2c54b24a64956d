/-
UTF-8 as Go's unicode/utf8 reads it. A Go string is any list of bytes; where it is not UTF-8 the
decoder steps over single bytes. What encoding/json makes of such a string is `text`: every byte
that starts no character reads as U+FFFD. The main results: decoding undoes encoding, so
encoding is injective and `text` changes no string that is valid UTF-8.
-/
import Mathlib.Data.List.Flatten
import GaiaCom.Lib.Text

namespace Lib.Utf8

def encodeChar (c : Char) : List UInt8 :=
  let n := c.toNat
  if n < 0x80 then [.ofNat n]
  else if n < 0x800 then [.ofNat (0xC0 + n / 64), .ofNat (0x80 + n % 64)]
  else if n < 0x10000 then [.ofNat (0xE0 + n / 4096), .ofNat (0x80 + n / 64 % 64), .ofNat (0x80 + n % 64)]
  else
    [.ofNat (0xF0 + n / 262144), .ofNat (0x80 + n / 4096 % 64), .ofNat (0x80 + n / 64 % 64), .ofNat (0x80 + n % 64)]

def encode (cs : List Char) : List UInt8 := cs.flatMap encodeChar

def isTail (b : Nat) : Bool := 0x80 ≤ b && b ≤ 0xBF

/-- The `i`-th byte, or one that continues nothing. -/
def byteAt (bs : List UInt8) (i : Nat) : Nat := (bs[i]?.map UInt8.toNat).getD 0

/-- `utf8.DecodeRune` at `b` followed by `bs`: the character and how many of `bs` belong to it; an
invalid byte stands alone. -/
def decodeRune (b : UInt8) (bs : List UInt8) : Option Char × Nat :=
  let n := b.toNat
  let x := byteAt bs 0
  let y := byteAt bs 1
  let z := byteAt bs 2
  if n < 0x80 then (some (Char.ofNat n), 0)
  else if 0xC2 ≤ n ∧ n ≤ 0xDF ∧ isTail x then (some (Char.ofNat ((n - 0xC0) * 64 + (x - 0x80))), 1)
  else if 0xE0 ≤ n ∧ n ≤ 0xEF ∧ (if n = 0xE0 then 0xA0 else 0x80) ≤ x ∧
      x ≤ (if n = 0xED then 0x9F else 0xBF) ∧ isTail y then
    (some (Char.ofNat ((n - 0xE0) * 4096 + (x - 0x80) * 64 + (y - 0x80))), 2)
  else if 0xF0 ≤ n ∧ n ≤ 0xF4 ∧ (if n = 0xF0 then 0x90 else 0x80) ≤ x ∧
      x ≤ (if n = 0xF4 then 0x8F else 0xBF) ∧ isTail y ∧ isTail z then
    (some (Char.ofNat ((n - 0xF0) * 262144 + (x - 0x80) * 4096 + (y - 0x80) * 64 + (z - 0x80))), 3)
  else (none, 0)

def runesFrom : Nat → List UInt8 → List (Option Char)
  | _, [] => []
  | skip + 1, _ :: bs => runesFrom skip bs
  | 0, b :: bs => (decodeRune b bs).1 :: runesFrom (decodeRune b bs).2 bs

/-- The characters of a string; `none` is an invalid byte. -/
def runes (bs : List UInt8) : List (Option Char) := runesFrom 0 bs

def runeError : Char := Char.ofNat 0xFFFD

def text (bs : List UInt8) : List Char := (runes bs).map fun r => r.getD runeError

/-- `utf8.ValidString` -/
def Valid (bs : List UInt8) : Prop := ∃ cs, bs = encode cs

example : runes [0x61, 0xC3, 0xA9, 0xF0, 0x9F, 0x98, 0x80, 0xC3, 0x62] =
    [some 'a', some 'é', some '😀', none, some 'b'] := by decide +kernel

/-! ## Decoding undoes encoding -/

theorem toNat_cases (c : Char) : c.toNat < 0xD800 ∨ (0xDFFF < c.toNat ∧ c.toNat < 0x110000) := c.valid

variable {n : Nat}

theorem toNat_ofNat (h : n < 256) : (UInt8.ofNat n).toNat = n := by
  simp; omega

variable {c : Char}

theorem ofNat_of_eq (h : n = c.toNat) : Char.ofNat n = c := by
  rw [h, Char.ofNat_toNat]

theorem byteAt_cons_zero (b : UInt8) (bs : List UInt8) : byteAt (b :: bs) 0 = b.toNat := rfl

theorem byteAt_cons_succ (b : UInt8) (bs : List UInt8) (i : Nat) : byteAt (b :: bs) (i + 1) = byteAt bs i := rfl

theorem decodeRune_one (h : c.toNat < 0x80) (rest : List UInt8) : decodeRune (.ofNat c.toNat) rest = (some c, 0) := by
  unfold decodeRune
  simp only [toNat_ofNat (show c.toNat < 256 by omega), if_pos h, Char.ofNat_toNat]

theorem decodeRune_two (h : 0x80 ≤ c.toNat) (h' : c.toNat < 0x800) (rest : List UInt8) :
    decodeRune (.ofNat (0xC0 + c.toNat / 64)) (.ofNat (0x80 + c.toNat % 64) :: rest) = (some c, 1) := by
  unfold decodeRune
  simp only [byteAt_cons_zero, byteAt_cons_succ, toNat_ofNat (show 0xC0 + c.toNat / 64 < 256 by omega),
    toNat_ofNat (show 0x80 + c.toNat % 64 < 256 by omega), isTail, Bool.and_eq_true, decide_eq_true_eq]
  rw [if_neg (by omega), if_pos (by omega), ofNat_of_eq (c := c) (by omega)]

theorem decodeRune_three (h : 0x800 ≤ c.toNat) (h' : c.toNat < 0x10000) (rest : List UInt8) :
    decodeRune (.ofNat (0xE0 + c.toNat / 4096))
      (.ofNat (0x80 + c.toNat / 64 % 64) :: .ofNat (0x80 + c.toNat % 64) :: rest) = (some c, 2) := by
  have hc := toNat_cases c
  unfold decodeRune
  simp only [byteAt_cons_zero, byteAt_cons_succ, toNat_ofNat (show 0xE0 + c.toNat / 4096 < 256 by omega),
    toNat_ofNat (show 0x80 + c.toNat / 64 % 64 < 256 by omega), toNat_ofNat (show 0x80 + c.toNat % 64 < 256 by omega),
    isTail, Bool.and_eq_true, decide_eq_true_eq]
  rw [if_neg (by omega), if_neg (by omega), if_pos (by split_ifs <;> omega), ofNat_of_eq (c := c) (by omega)]

theorem decodeRune_four (h : 0x10000 ≤ c.toNat) (rest : List UInt8) : decodeRune (.ofNat (0xF0 + c.toNat / 262144))
      (.ofNat (0x80 + c.toNat / 4096 % 64) :: .ofNat (0x80 + c.toNat / 64 % 64) ::
        .ofNat (0x80 + c.toNat % 64) :: rest) = (some c, 3) := by
  have hc := toNat_cases c
  unfold decodeRune
  simp only [byteAt_cons_zero, byteAt_cons_succ, toNat_ofNat (show 0xF0 + c.toNat / 262144 < 256 by omega),
    toNat_ofNat (show 0x80 + c.toNat / 4096 % 64 < 256 by omega),
    toNat_ofNat (show 0x80 + c.toNat / 64 % 64 < 256 by omega), toNat_ofNat (show 0x80 + c.toNat % 64 < 256 by omega),
    isTail, Bool.and_eq_true, decide_eq_true_eq]
  rw [if_neg (by omega), if_neg (by omega), if_neg (by omega), if_pos (by split_ifs <;> omega),
    ofNat_of_eq (c := c) (by omega)]

theorem runesFrom_encodeChar (c : Char) (rest : List UInt8) :
    runesFrom 0 (encodeChar c ++ rest) = some c :: runesFrom 0 rest := by
  simp only [encodeChar]
  split_ifs with h1 h2 h3
  · grind [runesFrom, decodeRune_one]
  · grind [runesFrom, decodeRune_two]
  · simp only [List.cons_append, List.nil_append, runesFrom, decodeRune_three (not_lt.1 h2) h3]
  grind [runesFrom, decodeRune_four]

theorem runes_encode (cs : List Char) : runes (encode cs) = cs.map some := by
  induction cs with
  | nil => rfl
  | cons c cs ih =>
    grind [runes, encode, runesFrom_encodeChar]

@[simp, grind =] theorem text_encode (cs : List Char) : text (encode cs) = cs := by
  simp [text, runes_encode, Function.comp_def]

theorem encode_inj {a b : List Char} (h : encode a = encode b) : a = b := by
  rw [← text_encode a, h, text_encode]

theorem encode_text {bs : List UInt8} (h : Valid bs) : encode (text bs) = bs := by
  obtain ⟨cs, rfl⟩ := h
  rw [text_encode]

/-! ## ASCII -/

variable {a : Char}

theorem mem_encodeChar_ascii (ha : a.toNat < 0x80) : UInt8.ofNat a.toNat ∈ encodeChar c ↔ a = c := by
  have hc := toNat_cases c
  have hbyte : ∀ {n}, n < 256 → (UInt8.ofNat a.toNat = UInt8.ofNat n ↔ a.toNat = n) := by
    grind [toNat_ofNat]
  have hchar : a.toNat = c.toNat ↔ a = c :=
    ⟨fun h => by rw [← Char.ofNat_toNat a, h, Char.ofNat_toNat], fun h => by rw [h]⟩
  simp only [encodeChar]
  split_ifs with h1 h2 h3
  · rw [List.mem_singleton, hbyte (by omega), hchar]
  all_goals
    have hne : a ≠ c := by rintro rfl; omega
    simp only [List.mem_cons, List.not_mem_nil, or_false, hne, iff_false, not_or]
  · rw [hbyte (by omega), hbyte (by omega)]; omega
  · grind
  grind

theorem mem_encode_ascii {cs : List Char} (ha : a.toNat < 0x80) : UInt8.ofNat a.toNat ∈ encode cs ↔ a ∈ cs := by
  grind [encode, mem_encodeChar_ascii]

theorem toNat_char_ofNat (h : n < 0xD800 ∨ (0xDFFF < n ∧ n < 0x110000)) : (Char.ofNat n).toNat = n := by
  have hv : n.isValidChar := h
  rw [Char.ofNat, dif_pos hv]
  rfl

theorem take_succ_byteAt {bs : List UInt8} {i : Nat} (h : 0x80 ≤ byteAt bs i) :
    bs.take (i + 1) = bs.take i ++ [.ofNat (byteAt bs i)] := by
  unfold byteAt at *
  rw [List.take_add_one]
  cases hi : bs[i]? <;> simp_all

theorem encodeChar_decodeRune {b : UInt8} {bs : List UInt8} (h : (decodeRune b bs).1 = some c) :
    encodeChar c = b :: bs.take (decodeRune b bs).2 := by
  have hb := b.toNat_lt
  have hx : 0x80 ≤ byteAt bs 0 → bs.take 1 = [.ofNat (byteAt bs 0)] := take_succ_byteAt
  have hy : 0x80 ≤ byteAt bs 1 → bs.take 2 = bs.take 1 ++ [.ofNat (byteAt bs 1)] := take_succ_byteAt
  have hz : 0x80 ≤ byteAt bs 2 → bs.take 3 = bs.take 2 ++ [.ofNat (byteAt bs 2)] := take_succ_byteAt
  have hof := b.ofNat_toNat
  simp only [decodeRune, isTail, Bool.and_eq_true, decide_eq_true_eq] at h ⊢
  generalize b.toNat = n at *
  generalize byteAt bs 0 = x at *
  generalize byteAt bs 1 = y at *
  generalize byteAt bs 2 = z at *
  -- the bounds of the second byte depend on the lead byte
  generalize hlo : (if n = 0xE0 then 0xA0 else 0x80) = lo at h ⊢
  generalize hhi : (if n = 0xED then 0x9F else 0xBF) = hi at h ⊢
  generalize hlo' : (if n = 0xF0 then 0x90 else 0x80) = lo' at h ⊢
  generalize hhi' : (if n = 0xF4 then 0x8F else 0xBF) = hi' at h ⊢
  split_ifs at h ⊢ with h1 h2 h3 h4 <;> obtain rfl := Option.some.inj h
  · rw [encodeChar, toNat_char_ofNat (by omega), if_pos h1, hof, List.take_zero]
  · rw [encodeChar, toNat_char_ofNat (by omega), if_neg (by omega), if_pos (by omega), hx (by omega),
      show 0xC0 + ((n - 0xC0) * 64 + (x - 0x80)) / 64 = n by omega,
      show 0x80 + ((n - 0xC0) * 64 + (x - 0x80)) % 64 = x by omega, hof]
  · have hx' : 0x80 ≤ x ∧ x ≤ 0xBF := by grind
    rw [encodeChar, toNat_char_ofNat (by grind), if_neg (by grind), if_neg (by grind), if_pos (by omega), hy (by omega),
      hx (by omega), show 0xE0 + ((n - 0xE0) * 4096 + (x - 0x80) * 64 + (y - 0x80)) / 4096 = n by omega,
      show 0x80 + ((n - 0xE0) * 4096 + (x - 0x80) * 64 + (y - 0x80)) / 64 % 64 = x by omega,
      show 0x80 + ((n - 0xE0) * 4096 + (x - 0x80) * 64 + (y - 0x80)) % 64 = y by omega, hof]
    rfl
  · have hx' : 0x80 ≤ x ∧ x ≤ 0xBF := by grind
    generalize hv : (n - 0xF0) * 262144 + (x - 0x80) * 4096 + (y - 0x80) * 64 + (z - 0x80) = v
    have hbounds : 0x10000 ≤ v ∧ v < 0x110000 := by grind
    rw [encodeChar, toNat_char_ofNat (by omega), if_neg (by omega), if_neg (by omega), if_neg (by omega), hz (by omega),
      hy (by omega), hx (by omega), show 0xF0 + v / 262144 = n by omega, show 0x80 + v / 4096 % 64 = x by omega,
      show 0x80 + v / 64 % 64 = y by omega, show 0x80 + v % 64 = z by omega, hof]
    rfl

theorem decodeRune_ascii {b : UInt8} {bs : List UInt8} (ha : a.toNat < 0x80)
    (h : (decodeRune b bs).1 = some a) : b = UInt8.ofNat a.toNat := by
  have hencode := encodeChar_decodeRune h
  rw [encodeChar, if_pos ha] at hencode
  exact (List.cons.inj hencode).1.symm

theorem mem_runesFrom_ascii {a : Char} (ha : a.toNat < 0x80) : ∀ {n : Nat} {bs : List UInt8},
    some a ∈ runesFrom n bs → UInt8.ofNat a.toNat ∈ bs
  | _, [], h => by simp [runesFrom] at h
  | n + 1, _ :: bs, h => List.mem_cons_of_mem _ (mem_runesFrom_ascii ha (n := n) (by simpa [runesFrom] using h))
  | 0, b :: bs, h => by
    simp only [runesFrom, List.mem_cons] at h
    rcases h with h | h
    · rw [decodeRune_ascii ha h.symm]
      exact List.mem_cons_self ..
    · exact List.mem_cons_of_mem _ (mem_runesFrom_ascii ha h)

/-! ## White space -/

def pieces : Nat → List UInt8 → List (UInt8 ⊕ Char)
  | _, [] => []
  | skip + 1, _ :: bs => pieces skip bs
  | 0, b :: bs => ((decodeRune b bs).1.map Sum.inr).getD (.inl b) :: pieces (decodeRune b bs).2 bs

def blank : UInt8 ⊕ Char → Bool := Sum.elim (fun _ => false) isSpace

/-- `strings.TrimSpace` on a string that need not be UTF-8. -/
def trimBytes (bs : List UInt8) : List UInt8 :=
  (((pieces 0 bs).dropWhile blank).reverse.dropWhile blank).reverse.flatMap (Sum.elim (fun b => [b]) encodeChar)

theorem pieces_encodeChar (c : Char) (rest : List UInt8) :
    pieces 0 (encodeChar c ++ rest) = .inr c :: pieces 0 rest := by
  simp only [encodeChar]
  split_ifs with h1 h2 h3
  · grind [pieces, decodeRune_one]
  · grind [pieces, decodeRune_two]
  · simp only [List.cons_append, List.nil_append, pieces, decodeRune_three (not_lt.1 h2) h3, Option.map_some,
      Option.getD_some]
  grind [pieces, decodeRune_four]

theorem pieces_encode (cs : List Char) : pieces 0 (encode cs) = cs.map Sum.inr := by
  induction cs <;> grind [encode, pieces_encodeChar, pieces]

theorem trimBytes_encode (cs : List Char) : trimBytes (encode cs) = encode (trim cs) := by
  have hblank : blank ∘ Sum.inr = isSpace := rfl
  rw [trimBytes, pieces_encode, List.dropWhile_map, hblank, ← List.map_reverse, List.dropWhile_map, hblank,
    ← List.map_reverse, List.flatMap_map]
  rfl

theorem flatMap_pieces (bs : List UInt8) : ∀ n, (pieces n bs).flatMap (Sum.elim (fun b => [b]) encodeChar) = bs.drop n := by
  induction bs with
  | nil => intro n; simp [pieces]
  | cons b bs ih =>
    intro n
    cases n with
    | succ n => exact ih n
    | zero =>
      rw [pieces, List.flatMap_cons, ih, List.drop_zero]
      cases hc : (decodeRune b bs).1 with
      | none =>
        have hskip : (decodeRune b bs).2 = 0 := by
          revert hc
          unfold decodeRune
          grind
        simp [hskip]
      | some c => simp [encodeChar_decodeRune hc]

theorem trimBytes_sublist (bs : List UInt8) : (trimBytes bs).Sublist bs := by
  have htrim : (((pieces 0 bs).dropWhile blank).reverse.dropWhile blank).reverse.Sublist (pieces 0 bs) :=
    List.reverse_sublist.1 (by
      rw [List.reverse_reverse]
      exact (List.dropWhile_sublist _).trans (List.dropWhile_sublist _).reverse)
  have h := htrim.flatMap (Sum.elim (fun b => [b]) encodeChar)
  rwa [flatMap_pieces] at h

/-! ## Case -/

/-- The case mappings of Unicode, `unicode.ToUpper` and `unicode.ToLower`. What matters of the tables: on
ASCII they are the mappings of ASCII, and no other character has a line end for its capital. -/
structure Casing where
  upper : Char → Char
  lower : Char → Char
  upper_ascii : ∀ c : Char, c.toNat < 0x80 → upper c = upperChar c
  lower_ascii : ∀ c : Char, c.toNat < 0x80 → lower c = lowerChar c
  upper_newline : ∀ c : Char, upper c = '\n' → c = '\n'

/-- `strings.ToUpper`. -/
def Casing.toUpper (k : Casing) (bytes : List UInt8) : List UInt8 := encode ((text bytes).map k.upper)

/-- `strings.ToLower`. -/
def Casing.toLower (k : Casing) (bytes : List UInt8) : List UInt8 := encode ((text bytes).map k.lower)

theorem Casing.toLower_encode {k : Casing} {cs : List Char} (h : ∀ c ∈ cs, c.toNat < 0x80) :
    k.toLower (encode cs) = encode (cs.map lowerChar) := by
  grind [List.map_congr_left, k.lower_ascii, toLower]

theorem upperChar_ne {x : Char} (hx : ¬ ('A' ≤ x ∧ x ≤ 'Z')) (h : c ≠ x) : upperChar c ≠ x := by
  by_cases hc : 'a' ≤ c ∧ c ≤ 'z'
  · rintro rfl
    obtain ⟨hl, hu⟩ := hc
    have hn : (Char.ofNat (c.toNat - 32)).toNat = c.toNat - 32 :=
      toNat_char_ofNat (by have : c.toNat ≤ 122 := hu; omega)
    have hl' : 97 ≤ c.toNat := hl
    have hu' : c.toNat ≤ 122 := hu
    refine hx ⟨?_, ?_⟩
    · show 65 ≤ (upperChar c).toNat
      rw [upperChar, if_pos ⟨hl, hu⟩, hn]
      omega
    · show (upperChar c).toNat ≤ 90
      rw [upperChar, if_pos ⟨hl, hu⟩, hn]
      omega
  · simpa [upperChar, hc] using h

theorem newline_of_upperChar (h : upperChar c = '\n') : c = '\n' := by
  by_contra hc
  exact upperChar_ne (by decide) hc h

def Casing.plain : Casing where
  upper := upperChar
  lower := lowerChar
  upper_ascii _ _ := rfl
  lower_ascii := CaseMap.plain.ascii
  upper_newline _ h := newline_of_upperChar h

theorem Casing.newline_toUpper {k : Casing} {bytes : List UInt8} (h : 10 ∉ bytes) : 10 ∉ k.toUpper bytes := by
  intro hmem
  obtain ⟨c, hc, hup⟩ := List.mem_map.1 ((mem_encode_ascii (a := '\n') (by decide)).1 hmem)
  obtain ⟨r, hr, hrc⟩ := List.mem_map.1 hc
  rw [k.upper_newline c hup] at hrc
  cases r with
  | none => exact absurd hrc (by decide)
  | some x =>
    rw [Option.getD_some] at hrc
    subst hrc
    exact h (mem_runesFrom_ascii (a := '\n') (by decide) hr)

end Lib.Utf8
