/-
JSON texts and how Go's encoding/json reads them. A text is scanned one character at a time and
parsed with an explicit stack, as Go's scanner does, so reading is total without any bound on
the text. Decoding into a struct matches keys exactly or up to case, lets the last of several
members for a field win, takes `null` as no change, and fails on a value of another type.
-/
import GaiaCom.Lib.Digits
import GaiaCom.Lib.Text

namespace Lib

/-- A JSON value; a number is kept as its literal. -/
inductive Json where
  | null
  | bool (b : Bool)
  | num (literal : List Char)
  | str (s : String)
  | arr (items : List Json)
  | obj (members : List (String × Json))
  deriving Inhabited

namespace Json

/-! ## Tokens -/

/-- A token: punctuation or a scalar value. -/
inductive Token where
  | lbrace | rbrace | lbrack | rbrack | comma | colon
  | scalar (v : Json)

/-- Where the scanner is. Characters read are kept in reverse; `high` is a high surrogate that
waits for its low one. -/
inductive Lex where
  | idle
  | word (acc : List Char)
  | inString (acc : List Char) (high : Option Nat)
  | escape (acc : List Char) (high : Option Nat)
  | hex (acc : List Char) (high : Option Nat) (left : Nat) (value : Nat)

def isExponent : List Char → Bool
  | [] => true
  | e :: r =>
    let r := match r with
      | '+' :: r => r
      | '-' :: r => r
      | r => r
    (e == 'e' || e == 'E') && r != [] && r.all isDigit

def isNumber (w : List Char) : Bool :=
  let w := match w with
    | '-' :: r => r
    | w => w
  let whole := w.takeWhile isDigit
  whole != [] && (whole == ['0'] || whole.head? != some '0') &&
    match w.dropWhile isDigit with
    | '.' :: r => r.takeWhile isDigit != [] && isExponent (r.dropWhile isDigit)
    | r => isExponent r

def ofWord (w : List Char) : Option Json :=
  if w = "null".toList then some .null
  else if w = "true".toList then some (.bool true)
  else if w = "false".toList then some (.bool false)
  else if isNumber w then some (.num w)
  else none

def punctuation : Char → Option Token
  | '{' => some .lbrace
  | '}' => some .rbrace
  | '[' => some .lbrack
  | ']' => some .rbrack
  | ',' => some .comma
  | ':' => some .colon
  | _ => none

def isBlank (c : Char) : Bool := c == ' ' || c == '\t' || c == '\n' || c == '\r'

def replacement : Char := Char.ofNat 0xFFFD

def flush (acc : List Char) : Option Nat → List Char
  | none => acc
  | some _ => replacement :: acc

/-- The string after a complete `\uXXXX`. -/
def unit (acc : List Char) (high : Option Nat) (v : Nat) : Lex :=
  let isHigh := 0xD800 ≤ v && v < 0xDC00
  let isLow := 0xDC00 ≤ v && v < 0xE000
  match high with
  | some h =>
    if isLow then .inString (Char.ofNat (0x10000 + (h - 0xD800) * 0x400 + (v - 0xDC00)) :: acc) none
    else if isHigh then .inString (replacement :: acc) (some v)
    else .inString (Char.ofNat v :: replacement :: acc) none
  | none =>
    if isHigh then .inString acc (some v)
    else if isLow then .inString (replacement :: acc) none
    else .inString (Char.ofNat v :: acc) none

def escaped : Char → Option Char
  | '"' => some '"'
  | '\\' => some '\\'
  | '/' => some '/'
  | 'b' => some (Char.ofNat 8)
  | 'f' => some (Char.ofNat 12)
  | 'n' => some '\n'
  | 'r' => some '\r'
  | 't' => some '\t'
  | _ => none

def lexIdle (c : Char) : Lex × List Token :=
  if isBlank c then (.idle, [])
  else if c = '"' then (.inString [] none, [])
  else
    match punctuation c with
    | some t => (.idle, [t])
    | none => (.word [c], [])

def lexStep (st : Lex) (c : Char) : Option (Lex × List Token) :=
  match st with
  | .idle => some (lexIdle c)
  | .word acc =>
    if isBlank c || c == '"' || (punctuation c).isSome then
      (ofWord acc.reverse).map fun v => ((lexIdle c).1, .scalar v :: (lexIdle c).2)
    else some (.word (c :: acc), [])
  | .inString acc high =>
    if c = '"' then some (.idle, [.scalar (.str (String.ofList (flush acc high).reverse))])
    else if c = '\\' then some (.escape acc high, [])
    else if c.toNat < 0x20 then none
    else some (.inString (c :: flush acc high) none, [])
  | .escape acc high =>
    if c = 'u' then some (.hex acc high 4 0, [])
    else (escaped c).map fun e => (.inString (e :: flush acc high) none, [])
  | .hex acc high left value =>
    (hexDigit c).map fun d =>
      if left ≤ 1 then (unit acc high (16 * value + d), []) else (.hex acc high (left - 1) (16 * value + d), [])

def tokens (st : Lex) : List Char → Option (List Token)
  | [] =>
    match st with
    | .idle => some []
    | .word acc => (ofWord acc.reverse).map fun v => [.scalar v]
    | _ => none
  | c :: cs => do
    let (st, out) ← lexStep st c
    let rest ← tokens st cs
    return out ++ rest

/-! ## Values -/

/-- An array or object that is not closed yet, newest element first. -/
inductive Frame where
  | items (acc : List Json)
  | members (acc : List (String × Json)) (key : String)

/-- What may come next. -/
inductive Expect where
  | value | valueOrEnd | key | keyOrEnd | colon | commaOrEnd
  deriving DecidableEq

/-- The parser: open frames, what may come next, and the value once the outermost is closed. -/
structure Parse where
  stack : List Frame
  expect : Expect
  result : Option Json

def push (v : Json) : List Frame → Parse
  | [] => ⟨[], .commaOrEnd, some v⟩
  | .items acc :: st => ⟨.items (v :: acc) :: st, .commaOrEnd, none⟩
  | .members acc key :: st => ⟨.members ((key, v) :: acc) key :: st, .commaOrEnd, none⟩

def parseStep (p : Parse) (t : Token) : Option Parse :=
  if p.result.isSome then none
  else
    match t, p.expect, p.stack with
    | .scalar v, .value, st | .scalar v, .valueOrEnd, st => some (push v st)
    | .lbrack, .value, st | .lbrack, .valueOrEnd, st =>
      if st.length < 10000 then some ⟨.items [] :: st, .valueOrEnd, none⟩ else none
    | .lbrace, .value, st | .lbrace, .valueOrEnd, st =>
      if st.length < 10000 then some ⟨.members [] "" :: st, .keyOrEnd, none⟩ else none
    | .rbrack, .valueOrEnd, .items acc :: st | .rbrack, .commaOrEnd, .items acc :: st =>
      some (push (.arr acc.reverse) st)
    | .comma, .commaOrEnd, .items acc :: st => some ⟨.items acc :: st, .value, none⟩
    | .scalar (.str k), .key, .members acc _ :: st | .scalar (.str k), .keyOrEnd, .members acc _ :: st =>
      some ⟨.members acc k :: st, .colon, none⟩
    | .colon, .colon, st => some ⟨st, .value, none⟩
    | .rbrace, .keyOrEnd, .members acc _ :: st | .rbrace, .commaOrEnd, .members acc _ :: st =>
      some (push (.obj acc.reverse) st)
    | .comma, .commaOrEnd, .members acc k :: st => some ⟨.members acc k :: st, .key, none⟩
    | _, _, _ => none

def parseChars (cs : List Char) : Option Json := do
  let ts ← tokens .idle cs
  let p ← ts.foldlM parseStep ⟨[], .value, none⟩
  p.result

def parse (text : String) : Option Json := parseChars text.toList

/-! ## Decoding into structs -/

/-- The members a struct is decoded from; `null` leaves the struct as it is. -/
def members : Json → Option (List (String × Json))
  | .obj ms => some ms
  | .null => some []
  | _ => none

def field {α : Type} (decode : α → Json → Option α) (init : α) (name : String) (ms : List (String × Json)) : Option α :=
  (ms.filter fun m => equalFold m.1 name).foldlM (fun v m => decode v m.2) init

/-- A `string` field. -/
def stringField (name : String) (ms : List (String × Json)) : Option String :=
  field (fun old v => match v with | .str s => some s | .null => some old | _ => none) "" name ms

/-- A `bool` field. -/
def boolField (name : String) (ms : List (String × Json)) : Option Bool :=
  field (fun old v => match v with | .bool b => some b | .null => some old | _ => none) false name ms

/-- An `int` or `int64` field. -/
def intField (name : String) (ms : List (String × Json)) : Option Int :=
  field (fun old v => match v with | .num w => parseInt w | .null => some old | _ => none) 0 name ms

/-- The elements of a string slice; an element that is `null` keeps what stood in its place. -/
def stringItems : List String → List Json → Option (List String)
  | _, [] => some []
  | old, .str s :: vs => (stringItems old.tail vs).map (s :: ·)
  | old, .null :: vs => (stringItems old.tail vs).map (old.headD "" :: ·)
  | _, _ :: _ => none

/-- A `[]string` field. -/
def stringsField (name : String) (ms : List (String × Json)) : Option (List String) :=
  field (fun old v => match v with | .arr vs => stringItems old vs | .null => some [] | _ => none) [] name ms

/-- A field that is itself a struct: what is decoded later overrides it field by field, so its
members are those of all its occurrences. -/
def structField (name : String) (ms : List (String × Json)) : Option (List (String × Json)) :=
  field (fun old v => (members v).map fun new => old ++ new) [] name ms

/-- The elements of a slice of structs, each as its members; an element decoded again keeps what it had. -/
def structItems : List (List (String × Json)) → List Json → Option (List (List (String × Json)))
  | _, [] => some []
  | old, v :: vs => do
    let new ← members v
    let rest ← structItems old.tail vs
    return (old.headD [] ++ new) :: rest

def structsField (name : String) (ms : List (String × Json)) : Option (List (List (String × Json))) :=
  field (fun old v => match v with | .arr vs => structItems old vs | .null => some [] | _ => none) [] name ms

/-- A `map[string]string` field, for its being well typed. -/
def stringMapField (name : String) (ms : List (String × Json)) : Option (List (String × Json)) := do
  let entries ← structField name ms
  if entries.all fun m => match m.2 with | .str _ => true | .null => true | _ => false then some entries else none

/-- The value under `key` of a `map[string]string` field; the zero value if there is none. -/
def mapValue (name key : String) (ms : List (String × Json)) : Option String := do
  let entries ← field (fun old v => match v with | .obj new => some (old ++ new) | .null => some [] | _ => none) [] name ms
  let values ← entries.mapM fun m => match m.2 with | .str s => some (m.1, s) | .null => some (m.1, "") | _ => none
  return ((values.reverse.find? fun m => m.1 = key).map Prod.snd).getD ""

/-! ## Decoding that ignores its error

Where the error of `json.Unmarshal` is dropped, a value of another type leaves its field as it is and the rest
is decoded. -/

def lenientMembers : Json → List (String × Json)
  | .obj ms => ms
  | _ => []

/-- A `string` field. -/
def lenientString (name : String) (ms : List (String × Json)) : String :=
  (ms.filter fun m => equalFold m.1 name).foldl (fun old m => match m.2 with | .str s => s | _ => old) ""

def lenientStruct (name : String) (ms : List (String × Json)) : List (String × Json) :=
  (ms.filter fun m => equalFold m.1 name).flatMap fun m => lenientMembers m.2

example : ((parse "\x7b\"Id\": \"a\\u00e9\\ud83d\\ude00\", \"n\": [1, -2e3, null], \"id\": null\x7d").bind members).bind
    (stringField "id") = some "aé😀" := by decide +kernel

end Json

end Lib
