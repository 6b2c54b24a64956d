/-
How a server-to-server request names and proves its sender, federation_service.go: the
authorization header (`parseS2SHeader`), the text a request signs, and the discovery of a server's
key (`fetchRemoteServerKey`). The network is an argument: what the address check says and what
the remote answers. A header that is not UTF-8 fails the check of one of its fields, so headers
are texts here.
-/
import GaiaCom.Core.Validate
import GaiaCom.Lib.Json

namespace GaiaCom.Federation

open Lib Core

/-! ## The authorization header -/

/-- The errors of `parseS2SHeader`. -/
inductive HeaderError where
  | protocol | fieldCount | format | unknownField | duplicateField | missingField
  | base64 | signatureSize | keyID | timestamp
  deriving DecidableEq, Repr

/-- One `key="value"` of the header, added to the fields before it. -/
def parseQuotedHeaderField (fields : List (String × List Char)) (part : List Char) :
    Except HeaderError (List (String × List Char)) :=
  let part := trim part
  let key := String.ofList (part.takeWhile (· ≠ '='))
  let value := (part.dropWhile (· ≠ '=')).drop 1
  if '=' ∉ part ∨ key = "" ∨ value.length < 2 ∨ value.head? ≠ some '"' ∨ value.getLast? ≠ some '"' then .error .format
  else if key ≠ "Signature" ∧ key ≠ "KeyId" ∧ key ≠ "Timestamp" then .error .unknownField
  else if (fields.lookup key).isSome then .error .duplicateField
  else .ok ((key, (value.drop 1).dropLast) :: fields)

/-- `result[key]`: the empty text for a key that is not there. -/
def headerField (fields : List (String × List Char)) (key : String) : List Char := (fields.lookup key).getD []

/-- `parseQuotedHeaderFields`. -/
def parseQuotedHeaderFields (input : List Char) : Except HeaderError (List (String × List Char)) := do
  let parts := input.splitOn ','
  if parts.length ≠ 3 then .error .fieldCount
  let fields ← parts.foldlM parseQuotedHeaderField []
  if headerField fields "Signature" = [] ∨ headerField fields "KeyId" = [] ∨ headerField fields "Timestamp" = [] then
    .error .missingField
  return fields

/-- What the authorization header says. -/
structure S2SHeader where
  signature : List UInt8
  keyID : String
  timestamp : Int
  deriving DecidableEq

/-- `parseS2SHeader`. -/
def parseS2SHeader (header : String) : Except HeaderError S2SHeader :=
  match skip "X-Gaia-S2S-V1 ".toList header.toList with
  | none => .error .protocol
  | some input => do
    let fields ← parseQuotedHeaderFields input
    match base64Decode (headerField fields "Signature") with
    | none => .error .base64
    | some signature =>
      let keyID := String.ofList (headerField fields "KeyId")
      if signature.length ≠ 64 then .error .signatureSize
      else if domain keyID = false then .error .keyID
      else
        match parseInt (headerField fields "Timestamp") with
        | none => .error .timestamp
        | some timestamp => .ok ⟨signature, keyID, timestamp⟩

/-- `isTimestampValid` at Unix time `now`. -/
def isTimestampValid (now ts : Int) : Bool := now - 300 < ts ∧ ts < now + 300

/-- `canonicalRequestSigningText`. -/
def canonicalRequestSigningText (method path keyID : String) (timestamp : Int) (bodyHash : List UInt8) : String :=
  "\n".intercalate ["gaiacom-s2s-request-v1", toUpper method, path, toLower keyID, toString timestamp, hexEncode bodyHash]

/-! ## Discovery -/

/-- What the network says about a domain: whether `IsPrivateOrLoopbackIP` refuses its addresses, and
the status and body of the answer to the discovery request, if it comes. -/
structure Answer where
  isPrivate : Bool
  response : Option (Nat × String)

/-- The errors of `fetchRemoteServerKey`. -/
inductive DiscoveryError where
  | domain | privateAddress | unreachable | status (code : Nat) | document | name | protocol | key | keySize
  deriving DecidableEq, Repr

/-- `io.LimitReader`: the first `n` bytes; a character that is cut is no character any more. -/
def limitBytes : Nat → List Char → List Char
  | _, [] => []
  | n, c :: cs =>
    if n = 0 then []
    else if c.utf8Size ≤ n then c :: limitBytes (n - c.utf8Size) cs
    else [Json.replacement]

/-- The fields of `serverDiscoveryDocument` that are looked at. -/
structure ServerDiscoveryDocument where
  serverName : String
  publicKey : String
  protocols : List String

def decodeDocument (body : List Char) : Option ServerDiscoveryDocument := do
  let ms ← (← Json.parseChars body).members
  -- the other fields are not read, but a value of another type is an error
  let _ ← Json.stringMapField "endpoints" ms
  let _ ← Json.stringMapField "software" ms
  let _ ← Json.structField "policy" ms
  return {
    serverName := ← Json.stringField "server_name" ms
    publicKey := ← Json.stringField "ed25519_public_key" ms
    protocols := ← Json.stringsField "protocols" ms }

/-- `containsProtocol`. -/
def containsProtocol (protocols : List String) (expected : String) : Bool :=
  protocols.any fun protocol => equalFold (trimSpace protocol) expected

/-- `strings.Contains`. -/
def contains (s sub : String) : Bool := s.toList.tails.any fun t => (skip sub.toList t).isSome

/-- `ed25519.PublicKeySize`. -/
def publicKeySize : Nat := 32

/-- `fetchRemoteServerKey`. -/
def fetchRemoteServerKey (name : String) (answer : Answer) : Except DiscoveryError (List UInt8) :=
  if domain name = false then .error .domain
  else if answer.isPrivate ∧ contains name "localhost" = false then .error .privateAddress
  else
    match answer.response with
    | none => .error .unreachable
    | some (code, body) =>
      if code ≠ 200 then .error (.status code)
      else
        match decodeDocument (limitBytes (16 * 1024) body.toList) with
        | none => .error .document
        | some document =>
          if document.serverName ≠ name then .error .name
          else if document.protocols ≠ [] ∧ containsProtocol document.protocols "gaiacom.s2s.v1" = false then
            .error .protocol
          else
            match base64Decode document.publicKey.toList with
            | none => .error .key
            | some keyBytes => if keyBytes.length ≠ publicKeySize then .error .keySize else .ok keyBytes

end GaiaCom.Federation
