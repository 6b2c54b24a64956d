/-
The message guard: `CheckMessageEnvelope` of message_guard.go, which every envelope passes before it is saved.

Its third check is for freshness. It is skipped for a timestamp that cannot be read and for one that reads as the zero
time, and it measures the distance from the clock as a 64-bit duration, which comes out negative for instants more
than 292 years ahead. So an accepted timestamp lies within ten minutes of the clock exactly if it can be read, is
not the zero time and is not that far in the future (`accepted_fresh_iff`).
-/
import GaiaCom.Core.Uuid
import GaiaCom.Core.Validate
import GaiaCom.Lib.GoTime
import GaiaCom.Lib.Marshal

namespace GaiaCom.Security.MessageGuard

open Lib Core Json

abbrev Bytes := List UInt8

/-! ## Envelopes -/

/-- How `json` makes a number a float64 and the guard an int64 of it, where it can; integers of up to 53 bits stay
as they are. -/
structure Floats where
  truncate : List Char → Option Int64
  truncate_formatInt : ∀ n : Int, n.natAbs ≤ 2 ^ 53 → truncate (formatInt n) = some (Int64.ofInt n)

/-- `plainEnvelope`. -/
structure PlainEnvelope where
  id : String
  clientMessageID : String
  timestamp : Json
  algorithmSuite : String
  signature : String
  ed25519 : String
  mldsa87 : String
  mldsa87Public : String
  payload : String
  payloadCiphertext : String
  hqcCiphertext : String
  sovereignProfile : String
  roomID : String

section Decoding

variable (floats : Floats)

mutual

def isConvertible : Json → Bool
  | .num w => (floats.truncate w).isSome
  | .arr vs => areConvertible vs
  | .obj ms => membersConvertible ms
  | _ => true

def areConvertible : List Json → Bool
  | [] => true
  | v :: vs => isConvertible v && areConvertible vs

def membersConvertible : List (String × Json) → Bool
  | [] => true
  | (_, v) :: ms => isConvertible v && membersConvertible ms

end

def anyField (name : String) (ms : List (String × Json)) : Option Json :=
  field (fun _ v => if isConvertible floats v then some v else none) .null name ms

/-- `json.Unmarshal` into an envelope. -/
def decodeEnvelope (data : Bytes) : Option PlainEnvelope := do
  let ms ← (← parseChars (Utf8.text data)).members
  let bundle ← structField "signature_bundle" ms
  return {
    id := ← stringField "id" ms
    clientMessageID := ← stringField "client_message_id" ms
    timestamp := ← anyField floats "timestamp" ms
    algorithmSuite := ← stringField "algorithm_suite" ms
    signature := ← stringField "signature" ms
    ed25519 := ← stringField "ed25519" bundle
    mldsa87 := ← stringField "ml_dsa_87" bundle
    mldsa87Public := ← stringField "ml_dsa_87_public" bundle
    payload := ← stringField "payload" ms
    payloadCiphertext := ← stringField "payload_ciphertext" ms
    hqcCiphertext := ← stringField "hqc_ciphertext" ms
    sovereignProfile := ← stringField "sovereign_profile" ms
    roomID := ← stringField "room_id" ms }

end Decoding

/-! ## Checks -/

/-- Why an envelope is rejected. -/
inductive GuardError where
  | size | json | messageID | replay | skew | signature | suite | sovereign | topSecret
  deriving DecidableEq, Repr

def ensure (err : GuardError) (p : Bool) : Except GuardError Unit := if p then .ok () else .error err

@[grind =]
theorem ensure_eq_ok {err : GuardError} {p : Bool} : ensure err p = .ok () ↔ p = true := by
  cases p with
  | true => exact iff_of_true rfl rfl
  | false => exact iff_of_false (fun h => by cases h) (fun h => by cases h)

def legacyStandardAlgorithmSuite : String := "GaiaCom/v0.1/hybrid-kem/X25519+ML-KEM-1024/AES-256-GCM"

def legacyTopSecretAlgorithmSuite : String := "GaiaCom/v0.2/top-secret/X25519+ML-KEM-1024/AES-256-GCM/Ed25519+ML-DSA-87"

def sovereignAcceleratedAlgorithmSuite : String :=
  "GaiaCom/v1.0/sovereign-accelerated/X25519+ML-KEM-1024+HQC-256/Twofish-256-EAX+AES-256-GCM/Ed25519"

def sovereignTopSecretAlgorithmSuite : String :=
  "GaiaCom/v1.0/sovereign-top-secret/X25519+ML-KEM-1024+HQC-256/Serpent-256-CTR-HMAC-SHA3-512+Twofish-256-EAX+XChaCha20-Poly1305+AES-256-GCM-SIV/Ed25519+ML-DSA-87"

def PlainEnvelope.idStr (env : PlainEnvelope) : String :=
  if env.clientMessageID = "" then env.id else env.clientMessageID

def PlainEnvelope.messageID (env : PlainEnvelope) : Option UUID := (Core.parse env.idStr).filter fun id => id ≠ .nil

def ofNumber (msec : Int) : Int :=
  if 100000000000 < msec then GoTime.unix (msec / 1000) (msec % 1000 * 1000000) else GoTime.unix msec 0

/-- The time read from the timestamp, if it can be read; an empty text reads as the zero time. -/
def readTimestamp (floats : Floats) : Json → Option Int
  | .str val => if val = "" then some 0 else GoTime.parse val.toList
  | .num w => (floats.truncate w).map fun msec => ofNumber msec.toInt
  | _ => none

/-- `10*time.Minute`. -/
def skewLimit : Int64 := 600000000000

/-- There is no timestamp, or it cannot be read, or it is the zero time, or it is near the clock. -/
def isTimely (floats : Floats) (now : Int) : Json → Bool
  | .null => true
  | timestamp => (readTimestamp floats timestamp).all fun t => t = 0 || GoTime.skew now t ≤ skewLimit

def isSupported (suite : String) : Bool :=
  suite = legacyStandardAlgorithmSuite || suite = legacyTopSecretAlgorithmSuite ||
    suite = sovereignAcceleratedAlgorithmSuite || suite = sovereignTopSecretAlgorithmSuite

def isSovereign (env : PlainEnvelope) : Bool :=
  let profileMatchesSuite :=
    (env.algorithmSuite = sovereignAcceleratedAlgorithmSuite && env.sovereignProfile = "accelerated") ||
      (env.algorithmSuite = sovereignTopSecretAlgorithmSuite && env.sovereignProfile = "top-secret")
  profileMatchesSuite && (hexDecode env.hqcCiphertext.toList).any fun ciphertext => ciphertext.length = 14421

section Guard

variable (floats : Floats) (now : Int) (existing : UUID → Option Bool)

def checkIdentity (env : PlainEnvelope) : Except GuardError Unit :=
  match env.messageID with
  | none => .error .messageID
  | some msgUUID => ensure .replay (existing msgUUID ≠ some true)

def checkSuite (env : PlainEnvelope) : Except GuardError Unit := do
  ensure .signature (env.signature ≠ "")
  ensure .suite (isSupported env.algorithmSuite)
  ensure .sovereign (isSovereign env || (env.algorithmSuite ≠ sovereignAcceleratedAlgorithmSuite &&
    env.algorithmSuite ≠ sovereignTopSecretAlgorithmSuite))
  ensure .topSecret ((env.mldsa87 ≠ "" && env.mldsa87Public ≠ "") ||
    (env.algorithmSuite ≠ legacyTopSecretAlgorithmSuite && env.algorithmSuite ≠ sovereignTopSecretAlgorithmSuite))

/-- `CheckMessageEnvelope`; `existing` is the answer of `FindMessageEnvelopesByIDs`, whether there is such a message,
or nothing if the query fails. -/
def checkMessageEnvelope (envelopeData : Bytes) : Except GuardError Unit := do
  ensure .size (envelopeData.length ≤ 30 * 1024 * 1024)
  match decodeEnvelope floats envelopeData with
  | none => .error .json
  | some env => do
    checkIdentity existing env
    ensure .skew (isTimely floats now env.timestamp)
    checkSuite env

end Guard

/-! ## Freshness -/

/-- The clock of the server, between 1970 and 2200. -/
structure Clock where
  now : Int
  after1970 : GoTime.unix 0 0 ≤ now
  before2200 : now ≤ GoTime.unix 7258118400 0

def denotes (floats : Floats) : Json → Option Int
  | .str val => GoTime.parse val.toList
  | .num w => (floats.truncate w).map fun msec => ofNumber msec.toInt
  | _ => none

/-- The instant is within ten minutes of the clock. -/
def Near (now t : Int) : Prop := now - t ≤ 600 * 1000000000 ∧ t - now ≤ 600 * 1000000000

/-- If the envelope is accepted and has a timestamp, this stands for an instant near the clock. -/
def Fresh (floats : Floats) (now : Int) (existing : UUID → Option Bool) (data : Bytes) : Prop :=
  checkMessageEnvelope floats now existing data = .ok () → ∀ env, decodeEnvelope floats data = some env →
    env.timestamp ≠ .null → ∃ t, denotes floats env.timestamp = some t ∧ Near now t

/-- Every other check lets the envelope pass. -/
def PassesOthers (floats : Floats) (existing : UUID → Option Bool) (data : Bytes) (env : PlainEnvelope) : Prop :=
  data.length ≤ 30 * 1024 * 1024 ∧ decodeEnvelope floats data = some env ∧ checkIdentity existing env = .ok () ∧
    checkSuite env = .ok ()

section Freshness

variable {floats : Floats} {now : Int} {existing : UUID → Option Bool} {data : Bytes}

theorem checkMessageEnvelope_ok_iff : checkMessageEnvelope floats now existing data = .ok () ↔
    ∃ env, PassesOthers floats existing data env ∧ isTimely floats now env.timestamp = true := by
  unfold checkMessageEnvelope PassesOthers
  cases decodeEnvelope floats data with
  | none =>
    refine iff_of_false (fun h => ?_) ?_
    · obtain ⟨⟨⟩, -, h⟩ := bind_eq_ok.1 h
      cases h
    · rintro ⟨env, ⟨-, h, -⟩, -⟩
      cases h
  | some env =>
    grind

theorem ensure_eq_error {err err' : GuardError} {p : Bool} :
    ensure err p = .error err' ↔ p = false ∧ err = err' := by
  cases p with
  | true => exact iff_of_false (fun h => by cases h) fun h => by cases h.1
  | false => simp [ensure]

theorem checkMessageEnvelope_replay_iff : checkMessageEnvelope floats now existing data = .error .replay ↔
    data.length ≤ 30 * 1024 * 1024 ∧ ∃ env id, decodeEnvelope floats data = some env ∧ env.messageID = some id ∧
      existing id = some true := by
  have hsuite : ∀ env, checkSuite env ≠ .error .replay := by
    intro env h
    simp [checkSuite, bind_eq_error, ensure_eq_error] at h
  have hsize : (∃ u, ensure .size (data.length ≤ 30 * 1024 * 1024) = .ok u) ↔ data.length ≤ 30 * 1024 * 1024 :=
    ⟨fun ⟨_, h⟩ => by simpa using ensure_eq_ok.1 h, fun h => ⟨(), ensure_eq_ok.2 (by simpa using h)⟩⟩
  grind [checkMessageEnvelope, bind_eq_error, ensure_eq_error, checkIdentity]

theorem readTimestamp_eq (floats : Floats) (timestamp : Json) :
    readTimestamp floats timestamp = denotes floats timestamp ∨
      (readTimestamp floats timestamp = some 0 ∧ denotes floats timestamp = none) := by
  cases timestamp with
  | str val =>
    simp only [readTimestamp, denotes]
    split
    · rename_i hempty
      rw [hempty]
      exact .inr ⟨rfl, rfl⟩
    · exact .inl rfl
  | _ => exact .inl rfl

theorem isTimely_of_ne {timestamp : Json} (h : timestamp ≠ .null) : isTimely floats now timestamp =
    (readTimestamp floats timestamp).all fun t => t = 0 || GoTime.skew now t ≤ skewLimit := by
  grind [isTimely]

theorem skew_le_limit_iff (t : Int) : GoTime.skew now t ≤ skewLimit ↔ Near now t ∨ 2 ^ 63 ≤ t - now := by
  have hlimit : skewLimit.toInt = 600 * 1000000000 := by decide
  grind [GoTime.skew_le_iff, Near]

/-- A timestamp passes exactly if it stands for nothing, for the zero time, for an instant near the clock or for one
that is too late to be measured. -/
theorem isTimely_iff {timestamp : Json} (h : timestamp ≠ .null) : isTimely floats now timestamp = true ↔
    ∀ t, denotes floats timestamp = some t → t = 0 ∨ Near now t ∨ 2 ^ 63 ≤ t - now := by
  rw [isTimely_of_ne h]
  rcases readTimestamp_eq floats timestamp with hread | ⟨hread, hdenotes⟩
  · rw [hread]
    cases denotes floats timestamp <;> grind [skew_le_limit_iff]
  · rw [hread, hdenotes]
    simp

/-- A timestamp that stands for nothing, for the zero time or for an instant that is too late passes without being
fresh. -/
theorem not_fresh {clock : Clock} {env : PlainEnvelope} (hothers : PassesOthers floats existing data env)
    (hne : env.timestamp ≠ .null)
    (hpass : ∀ t, denotes floats env.timestamp = some t → t = 0 ∨ 2 ^ 63 ≤ t - clock.now) :
    ¬ Fresh floats clock.now existing data := by
  intro hfresh
  have hclock := clock.after1970
  rw [GoTime.unix, GoTime.unixToInternal] at hclock
  have htimely : isTimely floats clock.now env.timestamp = true :=
    (isTimely_iff hne).2 fun t ht => (hpass t ht).imp_right .inr
  obtain ⟨t, ht, hnear⟩ := hfresh (checkMessageEnvelope_ok_iff.2 ⟨env, hothers, htimely⟩) env hothers.2.1 hne
  grind [Near]

end Freshness

/-- An accepted timestamp is near the clock exactly if, where the other checks let the envelope pass, it stands for an
instant, this is not the zero time, and it is less than 2^63 nanoseconds ahead of the clock. -/
theorem accepted_fresh_iff (floats : Floats) (clock : Clock) (existing : UUID → Option Bool) (data : Bytes) :
    Fresh floats clock.now existing data ↔
      ∀ env, PassesOthers floats existing data env → env.timestamp ≠ .null →
        ∃ t, denotes floats env.timestamp = some t ∧ t ≠ 0 ∧ t - clock.now < 2 ^ 63 := by
  grind [not_fresh, checkMessageEnvelope_ok_iff, isTimely_iff, Fresh, PassesOthers]

def integers : Floats where
  truncate w := (parseInt w).map Int64.ofInt
  truncate_formatInt n hn := by grind [parseInt_formatInt]

def sampleClock : Clock where
  now := 63919886400000000000
  after1970 := by decide
  before2200 := by decide

def sampleEnvelope (timestamp : String) : Bytes :=
  Utf8.encode ("\x7b\"client_message_id\":\"07000000-0000-0000-0000-000000000000\",\"timestamp\":" ++ timestamp ++
    ",\"signature\":\"00\",\"algorithm_suite\":\"GaiaCom/v0.1/hybrid-kem/X25519+ML-KEM-1024/AES-256-GCM\"\x7d").toList

def evades (floats : Floats) (now : Int) : Json → Bool
  | .null => false
  | timestamp => (denotes floats timestamp).all fun t => t = 0 || 2 ^ 63 ≤ t - now

theorem not_fresh_of_evades {floats : Floats} {clock : Clock} {existing : UUID → Option Bool} {data : Bytes}
    (haccepted : checkMessageEnvelope floats clock.now existing data = .ok ())
    (hevades : ((decodeEnvelope floats data).all fun env => evades floats clock.now env.timestamp) = true) :
    ¬ Fresh floats clock.now existing data := by
  obtain ⟨env, hothers, -⟩ := checkMessageEnvelope_ok_iff.1 haccepted
  rw [hothers.2.1, Option.all_some] at hevades
  have hne : env.timestamp ≠ .null := by
    intro hnull
    rw [hnull] at hevades
    cases hevades
  refine not_fresh hothers hne fun t ht => ?_
  revert hevades
  cases htimestamp : env.timestamp with
  | null => exact absurd htimestamp hne
  | _ =>
    rw [htimestamp] at ht
    simp [evades, ht]

/-- Accepted are 2^53 - 1 milliseconds, a day in the year 287396, and a text that is no time. -/
theorem stale_accepted :
    (checkMessageEnvelope integers sampleClock.now (fun _ => some false) (sampleEnvelope "9007199254740991") = .ok () ∧
      ¬ Fresh integers sampleClock.now (fun _ => some false) (sampleEnvelope "9007199254740991")) ∧
    checkMessageEnvelope integers sampleClock.now (fun _ => some false) (sampleEnvelope "\"yesterday\"") = .ok () ∧
      ¬ Fresh integers sampleClock.now (fun _ => some false) (sampleEnvelope "\"yesterday\"") := by
  have haccepted : ∀ timestamp ∈ ["9007199254740991", "\"yesterday\""],
      checkMessageEnvelope integers sampleClock.now (fun _ => some false) (sampleEnvelope timestamp) = .ok () ∧
        ((decodeEnvelope integers (sampleEnvelope timestamp)).all fun env =>
          evades integers sampleClock.now env.timestamp) = true := by
    simp only [sampleEnvelope, String.toList_append]
    repeat rw [String.toList_ofList]
    decide +kernel
  obtain ⟨hok, hevades⟩ := haccepted "9007199254740991" (by simp)
  obtain ⟨hok', hevades'⟩ := haccepted "\"yesterday\"" (by simp)
  exact ⟨⟨hok, not_fresh_of_evades hok hevades⟩, hok', not_fresh_of_evades hok' hevades'⟩

end GaiaCom.Security.MessageGuard
