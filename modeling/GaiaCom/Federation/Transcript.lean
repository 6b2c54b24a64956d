/-
What a server-to-server request signs and how it says so, federation_service.go: `signRequest` and
`canonicalRequestSigningText`. The header it writes is read back by `parseS2SHeader`, and the signed
text determines its parts: a signature for one request is a signature for no other.

Methods, paths and key ids are Go strings here, so any bytes; `canonicalRequestSigningText` of
Handshake is the same text for the ASCII methods and names of requests that are verified.
-/
import GaiaCom.Core.Uuid
import GaiaCom.Federation.Handshake
import GaiaCom.Lib.Utf8

namespace GaiaCom.Federation

open Lib Core Utf8

/-! ## The header -/

/-- One `key="value"`. -/
def quotedField (key : String) (value : List Char) : List Char := key.toList ++ '=' :: '"' :: value ++ ['"']

def headerFields (signature : List UInt8) (serverName : String) (timestamp : Int) : List (List Char) :=
  [quotedField "Signature" (base64Encode signature), quotedField "KeyId" serverName.toList,
    quotedField "Timestamp" (formatInt timestamp)]

/-- The header `signRequest` writes. -/
def authorizationHeader (signature : List UInt8) (serverName : String) (timestamp : Int) : String :=
  String.ofList ("X-Gaia-S2S-V1 ".toList ++ [','].intercalate (headerFields signature serverName timestamp))

example : authorizationHeader [1, 2, 3] "node.example" 1700000000 =
    "X-Gaia-S2S-V1 Signature=\"AQID\",KeyId=\"node.example\",Timestamp=\"1700000000\"" := by decide +kernel

theorem trim_quotedField {key : String} {value : List Char} (hkey : ∀ c, key.toList.head? = some c → isSpace c = false)
    (hne : key ≠ "") : trim (quotedField key value) = quotedField key value := by
  have hcons : key.toList ≠ [] := fun h => hne (String.toList_inj.1 (by simpa using h))
  refine trim_eq_self (fun c hc => hkey c ?_) fun c hc => ?_
  · grind [quotedField, List.head?_append_of_ne_nil]
  · rw [quotedField, List.getLast?_concat] at hc
    cases hc
    decide

theorem parseQuotedHeaderField_quotedField {key : String} (hkey : key = "Signature" ∨ key = "KeyId" ∨ key = "Timestamp")
    (value : List Char) {fields : List (String × List Char)} (hnew : (fields.lookup key).isSome = false) :
    parseQuotedHeaderField fields (quotedField key value) = .ok ((key, value) :: fields) := by
  have hword : (key.toList.all fun c => c != '=' && !isSpace c) = true ∧ key ≠ "" := by
    rcases hkey with rfl | rfl | rfl <;> decide
  obtain ⟨hall, hne⟩ := hword
  have hchars : ∀ c ∈ key.toList, c ≠ '=' ∧ isSpace c = false := by
    intro c hc
    simpa using List.all_eq_true.1 hall c hc
  have heq : ∀ c ∈ key.toList, c ≠ '=' := fun c hc => (hchars c hc).1
  have hspace : ∀ c, key.toList.head? = some c → isSpace c = false :=
    fun c hc => (hchars c (List.mem_of_mem_head? hc)).2
  have hpart : quotedField key value = key.toList ++ '=' :: ('"' :: value ++ ['"']) := by simp [quotedField]
  have hkeyPart : (quotedField key value).takeWhile (· ≠ '=') = key.toList := by
    rw [hpart, List.takeWhile_append_of_pos (by simpa using heq)]
    simp
  have hvaluePart : (quotedField key value).dropWhile (· ≠ '=') = '=' :: ('"' :: value ++ ['"']) := by
    rw [hpart, List.dropWhile_append_of_pos (by simpa using heq)]
    simp
  have hmem : '=' ∈ quotedField key value := by simp [quotedField]
  have hlast : ('"' :: value ++ ['"']).getLast? = some '"' := List.getLast?_concat ..
  unfold parseQuotedHeaderField
  simp only [trim_quotedField hspace hne, hkeyPart, hvaluePart, String.ofList_toList, List.drop_one, List.tail_cons, hmem,
    hne, hlast, hnew]
  rcases hkey with rfl | rfl | rfl <;> simp

theorem not_mem_of_all {cs : List Char} {p : Char → Bool} (h : ∀ c ∈ cs, p c = true) {x : Char} (hx : p x = false) :
    x ∉ cs := by
  intro hmem
  rw [h x hmem] at hx
  cases hx

theorem not_mem_formatInt (n : Int) {x : Char} (hminus : x ≠ '-') (hdigit : isDigit x = false) : x ∉ formatInt n := by
  grind [mem_formatInt]

variable {serverName : String} {signature : List UInt8} {timestamp : Int}

theorem splitOn_headerFields (hname : domain serverName = true) :
    ([','].intercalate (headerFields signature serverName timestamp)).splitOn ',' =
      headerFields signature serverName timestamp := by
  refine List.splitOn_intercalate ',' (fun part hpart => ?_) (List.cons_ne_nil _ _)
  have hquoted : ∀ {key : String} {value : List Char}, ',' ∉ key.toList → ',' ∉ value → ',' ∉ quotedField key value := by
    intro key value hk hv
    simp [quotedField, hk, hv]
  simp only [headerFields, List.mem_cons, List.not_mem_nil, or_false] at hpart
  rcases hpart with rfl | rfl | rfl
  · exact hquoted (by decide) (not_mem_of_all (isBase64_base64Encode signature) (by decide))
  · exact hquoted (by decide) (not_mem_of_all (domain_bytes hname).2 (by decide))
  · exact hquoted (by decide) (not_mem_formatInt timestamp (by decide) (by decide))

def readFields (signature : List UInt8) (serverName : String) (timestamp : Int) : List (String × List Char) :=
  [("Timestamp", formatInt timestamp), ("KeyId", serverName.toList), ("Signature", base64Encode signature)]

section Fields

variable (signature : List UInt8) (serverName : String) (timestamp : Int)

@[simp, grind =] theorem headerField_signature :
    headerField (readFields signature serverName timestamp) "Signature" = base64Encode signature := rfl

@[simp, grind =] theorem headerField_keyID : headerField (readFields signature serverName timestamp) "KeyId" = serverName.toList :=
  rfl

@[simp, grind =] theorem headerField_timestamp :
    headerField (readFields signature serverName timestamp) "Timestamp" = formatInt timestamp := rfl

theorem foldlM_headerFields : (headerFields signature serverName timestamp).foldlM parseQuotedHeaderField [] =
    .ok (readFields signature serverName timestamp) := by
  simp only [headerFields, List.foldlM_cons, List.foldlM_nil]
  rw [parseQuotedHeaderField_quotedField (.inl rfl) _ rfl]
  show (parseQuotedHeaderField _ _ >>= _) = _
  rw [parseQuotedHeaderField_quotedField (.inr (.inl rfl)) _ rfl]
  show (parseQuotedHeaderField _ _ >>= _) = _
  rw [parseQuotedHeaderField_quotedField (.inr (.inr rfl)) _ rfl]
  rfl

end Fields

theorem base64Encode_ne_nil {bytes : List UInt8} (h : bytes ≠ []) : base64Encode bytes ≠ [] := by
  intro hnil
  have hdecode := base64Decode_base64Encode bytes
  rw [hnil] at hdecode
  exact h (Option.some.inj hdecode).symm

theorem toList_ne_nil_of_domain {name : String} (h : domain name = true) : name.toList ≠ [] := by
  intro hnil
  have hle := (domain_bytes h).1
  rw [len, hnil] at hle
  exact absurd hle (by decide)

theorem parseQuotedHeaderFields_headerFields (timestamp : Int)
    (hsig : signature ≠ []) (hname : domain serverName = true) :
    parseQuotedHeaderFields ([','].intercalate (headerFields signature serverName timestamp)) =
      .ok (readFields signature serverName timestamp) := by
  have hlen : ¬ (headerFields signature serverName timestamp).length ≠ 3 := not_not.2 rfl
  have hfull : ¬ (base64Encode signature = [] ∨ serverName.toList = [] ∨ formatInt timestamp = []) := by
    simp [base64Encode_ne_nil hsig, toList_ne_nil_of_domain hname, formatInt_ne_nil]
  unfold parseQuotedHeaderFields
  simp only [splitOn_headerFields hname, if_neg hlen, foldlM_headerFields, bind, Except.bind, headerField_signature,
    headerField_keyID, headerField_timestamp]
  exact if_neg hfull

theorem skip_ofList (a rest : List Char) : skip a (String.ofList (a ++ rest)).toList = some rest := by
  rw [String.toList_ofList, skip_append]

theorem parseS2SHeader_authorizationHeader
    (hsig : signature.length = 64) (hname : domain serverName = true) (hl : -(2 ^ 63) ≤ timestamp)
    (hu : timestamp < 2 ^ 63) :
    parseS2SHeader (authorizationHeader signature serverName timestamp) = .ok ⟨signature, serverName, timestamp⟩ := by
  have hne : signature ≠ [] := by
    rintro rfl
    cases hsig
  have hskip : skip "X-Gaia-S2S-V1 ".toList (authorizationHeader signature serverName timestamp).toList =
      some ([','].intercalate (headerFields signature serverName timestamp)) := skip_ofList _ _
  unfold parseS2SHeader
  grind [parseQuotedHeaderFields_headerFields, base64Decode_base64Encode, parseInt_formatInt, String.ofList_toList]

/-! ## The transcript -/

/-- `canonicalRequestSigningText` over Go strings. -/
def canonicalRequestSigningBytes (k : Casing) (method path keyID : List UInt8) (timestamp : Int)
    (bodyHash : List UInt8) : List UInt8 :=
  [10].intercalate [encode "gaiacom-s2s-request-v1".toList, k.toUpper method, path, k.toLower keyID,
    encode (formatInt timestamp), encode (hexEncode bodyHash).toList]

theorem newline_not_mem_timestamp (n : Int) : 10 ∉ encode (formatInt n) := by
  intro h
  exact not_mem_formatInt n (by decide) (by decide) ((mem_encode_ascii (a := '\n') (by decide)).1 h)

theorem newline_not_mem_hex (bytes : List UInt8) : 10 ∉ encode (hexEncode bytes).toList := by
  intro h
  exact not_mem_hexEncode (by decide) bytes ((mem_encode_ascii (a := '\n') (by decide)).1 h)

theorem formatInt_inj {m n : Int} (hm : -(2 ^ 63) ≤ m ∧ m < 2 ^ 63) (hn : -(2 ^ 63) ≤ n ∧ n < 2 ^ 63)
    (h : formatInt m = formatInt n) : m = n := by
  have hp := parseInt_formatInt hm.1 hm.2
  rw [h, parseInt_formatInt hn.1 hn.2] at hp
  exact (Option.some.inj hp).symm

theorem canonicalRequestSigningBytes_eq (k : Casing) (method path keyID : List UInt8) (timestamp : Int)
    (bodyHash : List UInt8) : canonicalRequestSigningBytes k method path keyID timestamp bodyHash =
      encode "gaiacom-s2s-request-v1".toList ++ 10 :: (k.toUpper method ++ 10 :: (path ++ 10 ::
        ((k.toLower keyID ++ 10 :: encode (formatInt timestamp)) ++ 10 :: encode (hexEncode bodyHash).toList))) := by
  simp [canonicalRequestSigningBytes, List.intercalate]

/-- The transcript is cut from the front up to the path and from the end down to the key id, which may
itself have line ends. -/
theorem transcript_parts {k : Casing} {method path keyID bodyHash method' path' keyID' bodyHash' : List UInt8}
    {timestamp' : Int} (hm : 10 ∉ method) (hp : 10 ∉ path) (hm' : 10 ∉ method') (hp' : 10 ∉ path')
    (h : canonicalRequestSigningBytes k method path keyID timestamp bodyHash =
      canonicalRequestSigningBytes k method' path' keyID' timestamp' bodyHash') :
    k.toUpper method = k.toUpper method' ∧ path = path' ∧ k.toLower keyID = k.toLower keyID' ∧
      formatInt timestamp = formatInt timestamp' ∧ bodyHash = bodyHash' := by
  rw [canonicalRequestSigningBytes_eq, canonicalRequestSigningBytes_eq] at h
  have h := (List.cons.inj (List.append_cancel_left h)).2
  obtain ⟨hmethod, h⟩ := cut_first (k.newline_toUpper hm) (k.newline_toUpper hm') h
  obtain ⟨hpath, h⟩ := cut_first hp hp' h
  grind [cut_last, newline_not_mem_hex, newline_not_mem_timestamp, encode_inj, hexEncode_inj, String.toList_inj]

/-- The header that `signRequest` writes is read as it was written, and the text that it signs stands for one
method, path, key id, time and body hash. -/
theorem request_signature_bound (k : Casing) :
    (∀ (signature : List UInt8) (serverName : String) (timestamp : Int64), signature.length = 64 →
      domain serverName = true → parseS2SHeader (authorizationHeader signature serverName timestamp.toInt) =
        .ok ⟨signature, serverName, timestamp.toInt⟩) ∧
    ∀ (method path keyID bodyHash method' path' keyID' bodyHash' : List UInt8) (timestamp timestamp' : Int64),
      10 ∉ method → 10 ∉ path → 10 ∉ method' → 10 ∉ path' →
      canonicalRequestSigningBytes k method path keyID timestamp.toInt bodyHash =
        canonicalRequestSigningBytes k method' path' keyID' timestamp'.toInt bodyHash' →
      k.toUpper method = k.toUpper method' ∧ path = path' ∧ k.toLower keyID = k.toLower keyID' ∧
        timestamp = timestamp' ∧ bodyHash = bodyHash' := by
  constructor
  · intro signature serverName timestamp hsig hname
    exact parseS2SHeader_authorizationHeader hsig hname timestamp.le_toInt timestamp.toInt_lt
  · intro method path keyID bodyHash method' path' keyID' bodyHash' timestamp timestamp' hm hp hm' hp' h
    grind [transcript_parts, formatInt_inj, timestamp.le_toInt, timestamp.toInt_lt, timestamp'.le_toInt,
      timestamp'.toInt_lt, Int64.toInt_inj]

theorem request_signature_bound_post :
    parseS2SHeader (authorizationHeader (List.replicate 64 7) "node.example" (1700000000 : Int64).toInt) =
      .ok ⟨List.replicate 64 7, "node.example", (1700000000 : Int64).toInt⟩ ∧
    Casing.plain.toUpper (encode "post".toList) = Casing.plain.toUpper (encode "POST".toList) :=
  ⟨(request_signature_bound .plain).1 _ _ _ (by decide) (by decide),
    ((request_signature_bound .plain).2 (encode "post".toList) (encode "/forward".toList) (encode "Node.example".toList)
      [1, 2] (encode "POST".toList) (encode "/forward".toList) (encode "node.example".toList) [1, 2] 5 5
      (by decide +kernel) (by decide +kernel) (by decide +kernel) (by decide +kernel) (by decide +kernel)).1⟩

/-! ## Requests that are verified -/

/-- `signRequest`: the header of a request, by the signing function of the node's key. -/
def signRequest (k : Casing) (sha256 sign : List UInt8 → List UInt8) (serverName : String) (method path body : List UInt8)
    (timestamp : Int64) : String :=
  authorizationHeader
    (sign (canonicalRequestSigningBytes k method path (encode serverName.toList) timestamp.toInt (sha256 body)))
    serverName timestamp.toInt

end GaiaCom.Federation
