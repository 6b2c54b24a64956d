/-
JSON as Go's `json.Marshal` writes it, and that the reader gets the value back. A Go string is a list
of bytes; the bytes that are not UTF-8 are written as U+FFFD, and quotes, control characters, the
characters with a meaning in HTML and the line separators are escaped.

A `Written` value is a text together with the value it reads as, in every place where a value may
stand; structs are built from their fields, and fields with `omitempty` may be left out.
-/
import GaiaCom.Lib.Json
import GaiaCom.Lib.Utf8

namespace Lib.Json

open Utf8

/-! ## Strings -/

def escapeChar : Option Char → List Char
  | none => "\\ufffd".toList
  | some c =>
    if c = '"' ∨ c = '\\' then ['\\', c]
    else if c.toNat = 8 then ['\\', 'b']
    else if c.toNat = 12 then ['\\', 'f']
    else if c = '\n' then ['\\', 'n']
    else if c = '\r' then ['\\', 'r']
    else if c = '\t' then ['\\', 't']
    else if c.toNat < 0x20 ∨ c = '<' ∨ c = '>' ∨ c = '&' then
      ['\\', 'u', '0', '0', Nat.digitChar (c.toNat / 16), Nat.digitChar (c.toNat % 16)]
    else if c.toNat = 0x2028 ∨ c.toNat = 0x2029 then ['\\', 'u', '2', '0', '2', Nat.digitChar (c.toNat % 16)]
    else [c]

def quote (bytes : List UInt8) : List Char := '"' :: (runes bytes).flatMap escapeChar ++ ['"']

example : quote [0x61, 0x3C, 0x0A, 0xFF, 0xC3, 0xA9] = "\"a\\u003c\\n\\ufffdé\"".toList := by decide +kernel

variable {c : Char} {cs : List Char}

theorem tokens_of_step {st st' : Lex} (h : lexStep st c = some (st', [])) : tokens st (c :: cs) = tokens st' cs := by
  rw [tokens, h]
  simp

variable {acc : List Char} {d : Nat}

theorem hex_step {left value : Nat} (hc : hexDigit c = some d) (hleft : 1 < left) :
    lexStep (.hex acc none left value) c = some (.hex acc none (left - 1) (16 * value + d), []) := by
  grind [lexStep]

theorem hex_last {value : Nat} (hc : hexDigit c = some d) (hv : 16 * value + d < 0xD800 ∨ 0xDFFF < 16 * value + d) :
    lexStep (.hex acc none 1 value) c = some (.inString (Char.ofNat (16 * value + d) :: acc) none, []) := by
  grind [lexStep, unit]

variable {rest : List Char}

theorem tokens_unicode {w x y z : Char} {a b c : Nat} (hw : hexDigit w = some a)
    (hx : hexDigit x = some b) (hy : hexDigit y = some c) (hz : hexDigit z = some d)
    (hv : 16 * (16 * (16 * a + b) + c) + d < 0xD800 ∨ 0xDFFF < 16 * (16 * (16 * a + b) + c) + d) :
    tokens (.inString acc none) ('\\' :: 'u' :: w :: x :: y :: z :: rest) =
      tokens (.inString (Char.ofNat (16 * (16 * (16 * a + b) + c) + d) :: acc) none) rest := by
  have h1 : lexStep (.inString acc none) '\\' = some (.escape acc none, []) := rfl
  have h2 : lexStep (.escape acc none) 'u' = some (.hex acc none 4 0, []) := rfl
  rw [tokens_of_step h1, tokens_of_step h2, tokens_of_step (hex_step hw (by decide)),
    tokens_of_step (hex_step hx (by decide)), tokens_of_step (hex_step hy (by decide))]
  simp only [Nat.mul_zero, Nat.zero_add]
  exact tokens_of_step (hex_last hz hv)

theorem tokens_escaped {e : Char} (hu : e ≠ 'u') (he : escaped e = some c) :
    tokens (.inString acc none) ('\\' :: e :: rest) = tokens (.inString (c :: acc) none) rest := by
  grind [lexStep, flush, tokens_of_step, tokens]

theorem tokens_plain (hq : c ≠ '"') (hb : c ≠ '\\') (hc : ¬ c.toNat < 0x20) :
    tokens (.inString acc none) (c :: rest) = tokens (.inString (c :: acc) none) rest := by
  refine tokens_of_step ?_
  simp [lexStep, hq, hb, hc, flush]

theorem tokens_escapeChar (r : Option Char) (acc rest : List Char) :
    tokens (.inString acc none) (escapeChar r ++ rest) = tokens (.inString (r.getD runeError :: acc) none) rest := by
  cases r with
  | none =>
    show tokens _ ('\\' :: 'u' :: 'f' :: 'f' :: 'f' :: 'd' :: rest) = _
    rw [tokens_unicode (a := 15) (b := 15) (c := 15) (d := 13) (by decide) (by decide) (by decide) (by decide)
      (by decide)]
    rfl
  | some c =>
    simp only [escapeChar, Option.getD_some]
    have hof : ∀ {n}, c.toNat = n → c = Char.ofNat n := fun h => by rw [← h, Char.ofNat_toNat]
    split_ifs with hq h8 h12 hn hr ht hx hs
    · rcases hq with rfl | rfl
      · exact tokens_escaped (by decide) (by decide)
      · exact tokens_escaped (by decide) (by decide)
    · rw [hof h8]; exact tokens_escaped (by decide) (by decide)
    · rw [hof h12]; exact tokens_escaped (by decide) (by decide)
    · rw [hn]; exact tokens_escaped (by decide) (by decide)
    · rw [hr]; exact tokens_escaped (by decide) (by decide)
    · rw [ht]; exact tokens_escaped (by decide) (by decide)
    · have hlt : c.toNat < 0x80 := by
        rcases hx with h | rfl | rfl | rfl <;> grind
      have hval : 16 * (16 * (16 * 0 + 0) + c.toNat / 16) + c.toNat % 16 = c.toNat := by omega
      refine (tokens_unicode (a := 0) (b := 0) (by decide) (by decide) (hexDigit_digitChar _ (by omega))
        (hexDigit_digitChar _ (by omega)) (by omega)).trans ?_
      rw [hval, Char.ofNat_toNat]
      rfl
    · have hval : 16 * (16 * (16 * 2 + 0) + 2) + c.toNat % 16 = c.toNat := by omega
      refine (tokens_unicode (a := 2) (b := 0) (c := 2) (by decide) (by decide) (by decide)
        (hexDigit_digitChar _ (by omega)) (by omega)).trans ?_
      rw [hval, Char.ofNat_toNat]
      rfl
    · push Not at hq hx
      exact tokens_plain hq.1 hq.2 (by omega)

theorem tokens_escapeChars (rs : List (Option Char)) (acc rest : List Char) :
    tokens (.inString acc none) (rs.flatMap escapeChar ++ '"' :: rest) =
      (tokens .idle rest).map
        (Token.scalar (.str (String.ofList (acc.reverse ++ rs.map fun r => r.getD runeError))) :: ·) := by
  induction rs generalizing acc with
  | nil =>
    have h : lexStep (.inString acc none) '"' = some (.idle, [.scalar (.str (String.ofList acc.reverse))]) := rfl
    simp only [List.flatMap_nil, List.nil_append, List.map_nil, List.append_nil, tokens, h,
      Option.bind_eq_bind, Option.bind_some]
    cases tokens .idle rest <;> rfl
  | cons r rs ih =>
    grind [tokens_escapeChar]

theorem tokens_quote (bytes : List UInt8) (rest : List Char) :
    tokens .idle (quote bytes ++ rest) =
      (tokens .idle rest).map (Token.scalar (.str (String.ofList (text bytes))) :: ·) := by
  have h : lexStep .idle '"' = some (.inString [] none, []) := rfl
  simp only [quote, List.cons_append, List.append_assoc, List.nil_append]
  rw [tokens_of_step h, tokens_escapeChars]
  rfl

/-! ## Words -/

def isEnd (c : Char) : Bool := isBlank c || c == '"' || (punctuation c).isSome

/-- A text after which a word has ended. -/
def Ends (rest : List Char) : Prop := ∀ c ∈ rest.head?, isEnd c = true

variable {v : Json} {w : List Char}

theorem tokens_word_acc (hw : ∀ c ∈ w, isEnd c = false) (hv : ofWord (acc.reverse ++ w) = some v) (hrest : Ends rest) :
    tokens (.word acc) (w ++ rest) = (tokens .idle rest).map (Token.scalar v :: ·) := by
  induction w generalizing acc with
  | nil =>
    rw [List.append_nil] at hv
    cases rest with
    | nil => simp [tokens, hv]
    | cons c rest =>
      have hc : isEnd c = true := hrest c rfl
      unfold isEnd at hc
      simp only [List.nil_append, tokens, lexStep, hc, if_true, hv, Option.map_some, Option.bind_eq_bind,
        Option.bind_some]
      cases tokens (lexIdle c).1 rest <;> rfl
  | cons c w ih =>
    have hc : isEnd c = false := hw c (List.mem_cons_self ..)
    have hstep : lexStep (.word acc) c = some (.word (c :: acc), []) := by
      unfold isEnd at hc
      simp [lexStep, hc]
    grind [tokens_of_step]

theorem tokens_word (hne : w ≠ []) (hw : ∀ c ∈ w, isEnd c = false) (hv : ofWord w = some v) (hrest : Ends rest) :
    tokens .idle (w ++ rest) = (tokens .idle rest).map (Token.scalar v :: ·) := by
  cases w with
  | nil => exact absurd rfl hne
  | cons c w =>
    have hc : isEnd c = false := hw c (List.mem_cons_self ..)
    have hstep : lexStep .idle c = some (.word [c], []) := by
      simp only [isEnd, Bool.or_eq_false_iff, beq_eq_false_iff_ne, Option.isSome_eq_false_iff,
        Option.isNone_iff_eq_none] at hc
      simp [lexStep, lexIdle, hc.1.1, hc.1.2, hc.2]
    rw [List.cons_append, tokens_of_step hstep]
    exact tokens_word_acc (fun x hx => hw x (List.mem_cons_of_mem _ hx)) hv hrest

theorem head_toDigits {n : Nat} (h : 0 < n) : (Nat.toDigits 10 n).head? ≠ some '0' := by
  induction n using Nat.strongRecOn with
  | ind n ih =>
    rcases Nat.lt_or_ge n 10 with hlt | hge
    · rw [Nat.toDigits_of_lt_base hlt]
      interval_cases n <;> decide
    grind [Nat.toDigits_of_base_le, List.head?_append_of_ne_nil, Nat.toDigits_ne_nil]

theorem isNumber_toDigits (n : Nat) :
    (Nat.toDigits 10 n != [] && (Nat.toDigits 10 n == ['0'] || (Nat.toDigits 10 n).head? != some '0')) = true := by
  grind [Nat.eq_zero_or_pos, Nat.toDigits_ne_nil, head_toDigits]

theorem takeWhile_toDigits (n : Nat) : (Nat.toDigits 10 n).takeWhile isDigit = Nat.toDigits 10 n :=
  List.takeWhile_eq_self_iff.2 fun _ h => isDigit_toDigits h

theorem dropWhile_toDigits (n : Nat) : (Nat.toDigits 10 n).dropWhile isDigit = [] :=
  List.dropWhile_eq_nil_iff.2 fun _ h => isDigit_toDigits h

theorem isNumber_formatInt (n : Int) : isNumber (formatInt n) = true := by
  cases n with
  | ofNat n =>
    have hnum := isNumber_toDigits n
    have hminus : ∀ r, Nat.toDigits 10 n ≠ '-' :: r := by
      intro r h
      exact absurd (isDigit_toDigits (n := n) (c := '-') (h ▸ List.mem_cons_self ..)) (by decide)
    unfold isNumber formatInt
    split
    · rename_i r h; exact absurd h (hminus r)
    simp only [takeWhile_toDigits, dropWhile_toDigits, hnum, isExponent, Bool.and_true]
  | negSucc n =>
    have hnum := isNumber_toDigits (n + 1)
    unfold isNumber formatInt
    simp only [takeWhile_toDigits, dropWhile_toDigits, hnum, isExponent, Bool.and_true]

theorem isEnd_of_isDigit (h : isDigit c = true) : isEnd c = false := by
  have hne : ∀ x : Char, isDigit x = false → c ≠ x := by
    grind
  have h1 := hne '"' (by decide)
  have hblank : isBlank c = false := by
    simp [isBlank, hne ' ' (by decide), hne '\t' (by decide), hne '\n' (by decide), hne '\r' (by decide)]
  have hpunct : punctuation c = none := by
    unfold punctuation
    split <;> first | rfl | exact absurd h (by decide)
  simp [isEnd, hblank, hpunct, h1]

theorem isEnd_of_all (h : (w.all fun c => !isEnd c) = true) : ∀ c ∈ w, isEnd c = false := by
  simpa using h

theorem isEnd_formatInt (n : Int) : ∀ c ∈ formatInt n, isEnd c = false := by
  intro c hc
  rcases mem_formatInt hc with rfl | hc
  · decide
  · exact isEnd_of_isDigit hc

theorem ofWord_formatInt (n : Int) : ofWord (formatInt n) = some (.num (formatInt n)) := by
  have hnum := isNumber_formatInt n
  have hne : ∀ w, isNumber w = false → formatInt n ≠ w := by
    grind
  rw [ofWord, if_neg (hne _ (by decide)), if_neg (hne _ (by decide)), if_neg (hne _ (by decide)), if_pos hnum]

/-! ## Values that read back -/

def read (p : Parse) (cs : List Char) : Option Parse := (tokens .idle cs).bind fun ts => ts.foldlM parseStep p

theorem parseChars_eq (cs : List Char) : parseChars cs = (read ⟨[], .value, none⟩ cs).bind Parse.result := by
  simp [parseChars, read, Option.bind_assoc]

variable {p : Parse}

theorem read_token {t : Token}
    (h : tokens .idle cs = (tokens .idle rest).map (t :: ·)) : read p cs = (parseStep p t).bind fun p => read p rest := by
  unfold read
  rw [h]
  cases tokens .idle rest with
  | none | some ts => simp

theorem read_punctuation {t : Token} (rest : List Char) (hb : isBlank c = false) (hq : c ≠ '"')
    (ht : punctuation c = some t) : read p (c :: rest) = (parseStep p t).bind fun p => read p rest := by
  refine read_token ?_
  have hstep : lexStep .idle c = some (.idle, [t]) := by simp [lexStep, lexIdle, hb, hq, ht]
  simp only [tokens, hstep, Option.bind_eq_bind, Option.bind_some]
  cases tokens .idle rest <;> rfl

/-- Where a value may stand, over a stack that leaves room for `d` more levels. -/
structure Open (d : Nat) (p : Parse) : Prop where
  result : p.result = none
  expect : p.expect = .value ∨ p.expect = .valueOrEnd
  room : p.stack.length + d ≤ 10000

/-- The text is read as the value, in every place where a value may stand. -/
def Reads (d : Nat) (cs : List Char) (v : Json) : Prop :=
  ∀ (p : Parse) (rest : List Char), Open d p → Ends rest → read p (cs ++ rest) = read (push v p.stack) rest

theorem parseStep_scalar (h : Open d p) (v : Json) : parseStep p (.scalar v) = some (push v p.stack) := by
  obtain ⟨stack, expect, result⟩ := p
  obtain ⟨hr, he, -⟩ := h
  simp only at hr he
  subst hr
  rcases he with rfl | rfl <;> rfl

theorem reads_scalar
    (h : ∀ rest, Ends rest → tokens .idle (cs ++ rest) = (tokens .idle rest).map (Token.scalar v :: ·)) :
    Reads d cs v := by
  intro p rest hp hrest
  grind [parseStep_scalar, read]

theorem ends_of_punctuation (rest : List Char) (h : isEnd c = true) : Ends (c :: rest) := by
  intro x hx
  cases hx
  exact h

theorem parseStep_open (h : Open (d + 1) p) : parseStep p .lbrack = some ⟨.items [] :: p.stack, .valueOrEnd, none⟩ ∧
      parseStep p .lbrace = some ⟨.members [] "" :: p.stack, .keyOrEnd, none⟩ := by
  obtain ⟨stack, expect, result⟩ := p
  obtain ⟨hr, he, hroom⟩ := h
  simp only at hr he hroom
  subst hr
  have hlt : stack.length < 10000 := by omega
  rcases he with rfl | rfl <;> simp [parseStep, hlt]

theorem open_frame {f : Frame} {e : Expect} (h : Open (d + 1) p)
    (he : e = .value ∨ e = .valueOrEnd) : Open d ⟨f :: p.stack, e, none⟩ :=
  ⟨rfl, he, by have := h.room; simp only [List.length_cons]; omega⟩

/-- A written value: its text, what it means, and that it reads as that in a place with room for
`d` levels. -/
structure Written (d : Nat) where
  text : List Char
  value : Json
  reads : Reads d text value

def Written.str {d : Nat} (bytes : List UInt8) : Written d where
  text := quote bytes
  value := .str (String.ofList (Utf8.text bytes))
  reads := reads_scalar fun rest _ => tokens_quote bytes rest

def Written.int {d : Nat} (n : Int) : Written d where
  text := formatInt n
  value := .num (formatInt n)
  reads := reads_scalar fun _ hrest => tokens_word (formatInt_ne_nil n) (isEnd_formatInt n) (ofWord_formatInt n) hrest

def Written.bool {d : Nat} (b : Bool) : Written d where
  text := if b then "true".toList else "false".toList
  value := .bool b
  reads := by
    refine reads_scalar fun _ hrest => tokens_word ?_ (isEnd_of_all ?_) ?_ hrest
    · cases b <;> decide
    · cases b <;> rfl
    · cases b <;> rfl

/-! ## Arrays -/

def moreItems {d : Nat} (ws : List (Written d)) : List Char := ws.flatMap (fun w => ',' :: w.text) ++ [']']

def arrayText {d : Nat} : List (Written d) → List Char
  | [] => ['[', ']']
  | w :: ws => '[' :: w.text ++ moreItems ws

theorem ends_moreItems (ws : List (Written d)) (rest : List Char) : Ends (moreItems ws ++ rest) := by
  cases ws with
  | nil => exact ends_of_punctuation rest (by decide)
  | cons w ws => exact ends_of_punctuation _ (by decide)

theorem read_moreItems (hp : Open (d + 1) p) (ws : List (Written d)) (acc : List Json)
    (rest : List Char) : read ⟨.items acc :: p.stack, .commaOrEnd, none⟩ (moreItems ws ++ rest) =
      read (push (.arr (acc.reverse ++ ws.map Written.value)) p.stack) rest := by
  induction ws generalizing acc with
  | nil =>
    show read _ (']' :: rest) = _
    rw [read_punctuation rest (by decide) (by decide) (t := .rbrack) rfl]
    simp [parseStep]
  | cons w ws ih =>
    have hcons : moreItems (w :: ws) ++ rest = ',' :: (w.text ++ (moreItems ws ++ rest)) := by simp [moreItems]
    have hcomma : parseStep ⟨.items acc :: p.stack, .commaOrEnd, none⟩ .comma =
        some ⟨.items acc :: p.stack, .value, none⟩ := rfl
    rw [hcons, read_punctuation _ (by decide) (by decide) (t := .comma) rfl, hcomma, Option.bind_some,
      w.reads _ _ (open_frame hp (.inl rfl)) (ends_moreItems ws rest)]
    show read ⟨.items (w.value :: acc) :: p.stack, .commaOrEnd, none⟩ _ = _
    rw [ih]
    simp

def Written.array {d : Nat} (ws : List (Written d)) : Written (d + 1) where
  text := arrayText ws
  value := .arr (ws.map Written.value)
  reads := by
    intro p rest hp _
    obtain ⟨hopen, -⟩ := parseStep_open hp
    cases ws with
    | nil =>
      show read p ('[' :: ']' :: rest) = _
      rw [read_punctuation _ (by decide) (by decide) (t := .lbrack) rfl, hopen, Option.bind_some,
        read_punctuation _ (by decide) (by decide) (t := .rbrack) rfl]
      rfl
    | cons w ws =>
      have hcons : arrayText (w :: ws) ++ rest = '[' :: (w.text ++ (moreItems ws ++ rest)) := by simp [arrayText]
      rw [hcons, read_punctuation _ (by decide) (by decide) (t := .lbrack) rfl, hopen, Option.bind_some,
        w.reads _ _ (open_frame hp (.inr rfl)) (ends_moreItems ws rest)]
      exact read_moreItems hp ws [w.value] rest

/-! ## Objects -/

def memberText {d : Nat} (m : String × Written d) : List Char := quote (encode m.1.toList) ++ ':' :: m.2.text

def moreMembers {d : Nat} (ms : List (String × Written d)) : List Char := ms.flatMap (fun m => ',' :: memberText m) ++ ['}']

def objectText {d : Nat} : List (String × Written d) → List Char
  | [] => ['{', '}']
  | m :: ms => '{' :: memberText m ++ moreMembers ms

theorem ends_moreMembers (ms : List (String × Written d)) (rest : List Char) : Ends (moreMembers ms ++ rest) := by
  cases ms with
  | nil => exact ends_of_punctuation rest (by decide)
  | cons m ms => exact ends_of_punctuation _ (by decide)

theorem read_member (hp : Open (d + 1) p) (m : String × Written d) {acc : List (String × Json)}
    {key : String} {e : Expect} (he : e = .key ∨ e = .keyOrEnd) (hrest : Ends rest) :
    read ⟨.members acc key :: p.stack, e, none⟩ (memberText m ++ rest) =
      read ⟨.members ((m.1, m.2.value) :: acc) m.1 :: p.stack, .commaOrEnd, none⟩ rest := by
  have hkey : parseStep ⟨.members acc key :: p.stack, e, none⟩ (.scalar (.str m.1)) =
      some ⟨.members acc m.1 :: p.stack, .colon, none⟩ := by rcases he with rfl | rfl <;> rfl
  have hcolon : parseStep ⟨.members acc m.1 :: p.stack, .colon, none⟩ .colon =
      some ⟨.members acc m.1 :: p.stack, .value, none⟩ := rfl
  have hquote := tokens_quote (encode m.1.toList) (':' :: (m.2.text ++ rest))
  rw [text_encode, String.ofList_toList] at hquote
  have hcons : memberText m ++ rest = quote (encode m.1.toList) ++ ':' :: (m.2.text ++ rest) := by simp [memberText]
  rw [hcons, read_token hquote, hkey, Option.bind_some,
    read_punctuation _ (by decide) (by decide) (t := .colon) rfl, hcolon, Option.bind_some,
    m.2.reads _ _ (open_frame hp (.inl rfl)) hrest]
  rfl

theorem read_moreMembers (hp : Open (d + 1) p) (ms : List (String × Written d))
    (acc : List (String × Json)) (key : String) (rest : List Char) :
    read ⟨.members acc key :: p.stack, .commaOrEnd, none⟩ (moreMembers ms ++ rest) =
      read (push (.obj (acc.reverse ++ ms.map fun m => (m.1, m.2.value))) p.stack) rest := by
  induction ms generalizing acc key with
  | nil =>
    show read _ ('}' :: rest) = _
    rw [read_punctuation rest (by decide) (by decide) (t := .rbrace) rfl]
    simp [parseStep]
  | cons m ms ih =>
    have hcons : moreMembers (m :: ms) ++ rest = ',' :: (memberText m ++ (moreMembers ms ++ rest)) := by
      simp [moreMembers]
    have hcomma : parseStep ⟨.members acc key :: p.stack, .commaOrEnd, none⟩ .comma =
        some ⟨.members acc key :: p.stack, .key, none⟩ := rfl
    rw [hcons, read_punctuation _ (by decide) (by decide) (t := .comma) rfl, hcomma, Option.bind_some,
      read_member hp m (.inl rfl) (ends_moreMembers ms rest), ih]
    simp

def Written.object {d : Nat} (ms : List (String × Written d)) : Written (d + 1) where
  text := objectText ms
  value := .obj (ms.map fun m => (m.1, m.2.value))
  reads := by
    intro p rest hp _
    obtain ⟨-, hopen⟩ := parseStep_open hp
    cases ms with
    | nil =>
      show read p ('{' :: '}' :: rest) = _
      rw [read_punctuation _ (by decide) (by decide) (t := .lbrace) rfl, hopen, Option.bind_some,
        read_punctuation _ (by decide) (by decide) (t := .rbrace) rfl]
      rfl
    | cons m ms =>
      have hcons : objectText (m :: ms) ++ rest = '{' :: (memberText m ++ (moreMembers ms ++ rest)) := by
        simp [objectText]
      rw [hcons, read_punctuation _ (by decide) (by decide) (t := .lbrace) rfl, hopen, Option.bind_some,
        read_member hp m (.inr rfl) (ends_moreMembers ms rest)]
      exact read_moreMembers hp ms [(m.1, m.2.value)] m.1 rest

theorem parseChars_text (w : Written d) (hd : d ≤ 10000) : parseChars w.text = some w.value := by
  have hread := w.reads ⟨[], .value, none⟩ [] ⟨rfl, .inl rfl, by simpa using hd⟩ (by intro c hc; cases hc)
  rw [List.append_nil] at hread
  rw [parseChars_eq, hread]
  rfl

/-! ## Structs -/

def present {α : Type} (fs : List (String × Option α)) : List (String × α) :=
  fs.filterMap fun f => f.2.map fun v => (f.1, v)

def Written.struct {d : Nat} (fs : List (String × Option (Written d))) : Written (d + 1) := .object (present fs)

/-- A string field with `omitempty`. -/
def omitEmpty {d : Nat} (bytes : List UInt8) : Option (Written d) := if bytes = [] then none else some (.str bytes)

/-- No two names are the same up to case. -/
def Distinct (names : List String) : Prop := (names.map fun n => n.toList.map foldChar).Nodup

instance (names : List String) : Decidable (Distinct names) := inferInstanceAs (Decidable (List.Nodup _))

theorem equalFold_iff {s t : String} : equalFold s t = true ↔ s.toList.map foldChar = t.toList.map foldChar := by
  simp [equalFold]

theorem filter_eq_singleton {α : Type} {ms : List (String × α)} (hms : Distinct (ms.map Prod.fst)) {m : String × α}
    (hm : m ∈ ms) : (ms.filter fun x => equalFold x.1 m.1) = [m] := by
  induction ms with
  | nil => cases hm
  | cons x ms ih =>
    unfold Distinct at hms ih
    simp only [List.map_cons, List.nodup_cons, List.mem_map] at hms
    rcases List.mem_cons.1 hm with rfl | hmem
    · have hrest : (ms.filter fun x => equalFold x.1 m.1) = [] := by
        grind [List.filter_eq_nil_iff, equalFold_iff]
      rw [List.filter_cons, if_pos (equalFold_iff.2 rfl), hrest]
    · have hne : ¬ equalFold x.1 m.1 = true := by
        intro hfold
        exact hms.1 ⟨m.1, ⟨m, hmem, rfl⟩, (equalFold_iff.1 hfold).symm⟩
      grind

theorem present_sublist {α : Type} (fs : List (String × Option α)) :
    ((present fs).map Prod.fst).Sublist (fs.map Prod.fst) := by
  induction fs with
  | nil => exact .slnil
  | cons f fs ih =>
    obtain ⟨name, o⟩ := f
    cases o <;> grind [present]

theorem filter_present {α : Type} {fs : List (String × Option α)} (hfs : Distinct (fs.map Prod.fst)) {name : String}
    {o : Option α} (hmem : (name, o) ∈ fs) :
    ((present fs).filter fun m => equalFold m.1 name) = (o.map fun v => (name, v)).toList := by
  have hdistinct : Distinct ((present fs).map Prod.fst) := hfs.sublist ((present_sublist fs).map _)
  cases o with
  | some v =>
    grind [present, filter_eq_singleton]
  | none =>
    rw [Option.map_none, Option.toList_none, List.filter_eq_nil_iff]
    intro m hm hfold
    obtain ⟨⟨n, o⟩, hf, ho⟩ := List.mem_filterMap.1 hm
    -- the field that was written and the one left out are the same up to case
    have hone := filter_eq_singleton hfs hmem
    have hboth : (n, o) ∈ fs.filter fun x => equalFold x.1 name := by
      refine List.mem_filter.2 ⟨hf, ?_⟩
      cases o <;> grind
    grind

def structMembers {d : Nat} (fs : List (String × Option (Written d))) : List (String × Json) :=
  present (fs.map fun f => (f.1, f.2.map Written.value))

theorem members_struct (fs : List (String × Option (Written d))) :
    (Written.struct fs).value.members = some (structMembers fs) := by
  have hmap : (present fs).map (fun m => (m.1, m.2.value)) = structMembers fs := by
    unfold structMembers present
    rw [List.map_filterMap, List.filterMap_map]
    congr 1
    funext ⟨name, o⟩
    cases o <;> rfl
  rw [Written.struct, Written.object, members, hmap]

theorem lenientMembers_struct (fs : List (String × Option (Written d))) :
    (Written.struct fs).value.lenientMembers = structMembers fs := by
  grind [members_struct, Written.struct, Written.object, members, lenientMembers]

theorem structMembers_inj {fs gs : List (String × Option (Written d))} (hd : d + 1 ≤ 10000)
    (h : (Written.struct fs).text = (Written.struct gs).text) : structMembers fs = structMembers gs := by
  grind [parseChars_text, members_struct]

section Fields

variable {d : Nat} {fs : List (String × Option (Written d))} (hfs : Distinct (fs.map Prod.fst)) {name : String}
include hfs

theorem filter_structMembers {o : Option (Written d)} (hmem : (name, o) ∈ fs) :
    ((structMembers fs).filter fun m => equalFold m.1 name) = (o.map fun w => (name, w.value)).toList := by
  have hnames : (fs.map fun f => (f.1, f.2.map Written.value)).map Prod.fst = fs.map Prod.fst := by
    rw [List.map_map]
    rfl
  have hmem' : (name, o.map Written.value) ∈ fs.map fun f => (f.1, f.2.map Written.value) :=
    List.mem_map.2 ⟨(name, o), hmem, rfl⟩
  rw [structMembers, filter_present (by rw [hnames]; exact hfs) hmem', Option.map_map]
  rfl

/-- A field is decoded from the value it was written as, or keeps its zero value if it was left out. -/
theorem field_struct {α : Type} {decode : α → Json → Option α} {init : α} {o : Option (Written d)}
    (hmem : (name, o) ∈ fs) : field decode init name (structMembers fs) =
      o.elim (some init) fun w => decode init w.value := by
  rw [field, filter_structMembers hfs hmem]
  cases o <;> grind

theorem stringField_struct {bytes : List UInt8} (hmem : (name, some (.str bytes)) ∈ fs) :
    stringField name (structMembers fs) = some (String.ofList (text bytes)) := field_struct hfs hmem

theorem stringField_omitEmpty {bytes : List UInt8} (hmem : (name, omitEmpty bytes) ∈ fs) :
    stringField name (structMembers fs) = some (String.ofList (text bytes)) := by
  unfold omitEmpty at hmem
  split at hmem
  · rename_i hnil
    rw [stringField, field_struct hfs hmem, hnil]
    rfl
  · exact stringField_struct hfs hmem

theorem lenientString_struct {o : Option (List UInt8)} (hmem : (name, o.map Written.str) ∈ fs) :
    lenientString name (structMembers fs) = (o.map fun bytes => String.ofList (text bytes)).getD "" := by
  rw [lenientString, filter_structMembers hfs hmem]
  cases o with
  | none | some bytes => rfl

theorem lenientStruct_struct {e : Nat} {w : Written d} {gs : List (String × Option (Written e))}
    (hmem : (name, some w) ∈ fs) (hw : w.value = (Written.struct gs).value) :
    lenientStruct name (structMembers fs) = structMembers gs := by
  rw [lenientStruct, filter_structMembers hfs hmem]
  simp [hw, lenientMembers_struct]

theorem boolField_struct {b : Bool} (hmem : (name, some (.bool b)) ∈ fs) :
    boolField name (structMembers fs) = some b := field_struct hfs hmem

theorem intField_struct {n : Int} (hmem : (name, some (.int n)) ∈ fs) (hl : -(2 ^ 63) ≤ n) (hu : n < 2 ^ 63) :
    intField name (structMembers fs) = some n :=
  (field_struct hfs hmem).trans (parseInt_formatInt hl hu)

theorem structsField_struct {e : Nat} {ws : List (Written e)} {mss : List (List (String × Json))}
    {w : Written d} (hw : w.value = .arr (ws.map Written.value)) (hmem : (name, some w) ∈ fs)
    (hws : ws.mapM (fun w => w.value.members) = some mss) : structsField name (structMembers fs) = some mss := by
  rw [structsField, field_struct hfs hmem]
  simp only [Option.elim_some, hw]
  have hitems : ∀ {ws : List (Written e)} {mss : List (List (String × Json))},
      ws.mapM (fun w => w.value.members) = some mss → structItems [] (ws.map Written.value) = some mss := by
    intro ws
    induction ws with
    | nil => intro mss h; simpa [structItems] using h
    | cons w ws ih =>
      intro mss h
      simp only [List.mapM_cons, Option.bind_eq_bind, Option.bind_eq_some_iff] at h
      obtain ⟨ms, hms, mss', hmss, h⟩ := h
      cases h
      simp [structItems, hms, ih hmss]
  exact hitems hws

end Fields

end Lib.Json
