/-
storage_service.go: `InitializeUpload` with the user's quota, `SaveChunk`, `FinalizeUpload` and the pass of the retention
sweeper. Each call is the sequence of its statements and of its reads and writes of objects; what stands between two of
them is part of the step of the first one. Calls run side by side (`Lib.Pool`). SHA-256 is any function. The sweeper's
deletion of access grants is left out, it touches nothing here.
-/
import GaiaCom.Core.Validate
import GaiaCom.Lib.Pool
import GaiaCom.Storage.Store

namespace GaiaCom.Storage

open Lib Core GaiaCom.Store

/-! ## Calls -/

/-- What the world provides for one step: the clock, an id that is drawn, and whether the statement fails. -/
structure Tick where
  now : Nat
  id : UUID
  fails : Bool
  deriving DecidableEq

/-- `StorageService`. -/
structure Service where
  userQuotaBytes : Int
  pendingUploadTTL : Int

def maxFileBytes : Int := 10 * 1024 * 1024 * 1024 + 2 * 1024 * 1024

def maxChunkBytes : Int := 1 * 1024 * 1024

def defaultUserStorageQuotaBytes : Int := 50 * 1024 * 1024 * 1024

def effectiveUserQuotaBytes (service : Service) : Int :=
  if 0 < service.userQuotaBytes then service.userQuotaBytes else defaultUserStorageQuotaBytes

def effectivePendingUploadTTL (service : Service) : Nat :=
  if 0 < service.pendingUploadTTL then service.pendingUploadTTL.toNat else 24 * hour

def retention : Nat := 14 * 24 * hour

/-- `Format(time.RFC3339)`, which prints no fraction of a second. -/
def rfc3339 (t : Nat) : String := String.ofList (rfc3339Nano (t / second * second))

/-- A call with its arguments; `none` is a missing file header. -/
inductive Request where
  | initializeUpload (userID : UUID) (fileName : String) (fileSize : Int) (mimeType fileHash : String)
  | saveChunk (userID fileID : UUID) (chunkIndex : Int) (chunkHash : String) (content : Option (List UInt8))
  | finalizeUpload (fileID userID : UUID)
  | sweepExpiredFiles
  deriving DecidableEq

inductive UploadError where
  | user | fileSize | fileName | fileHash | quota | upload | chunkIndex | chunkHash | access | boundary | chunkIntegrity
  | finalize | authorization | noChunks | manifest | object | objectSize | chunkMismatch | sizeMismatch | fileMismatch
  | noRows | system
  deriving DecidableEq

/-- The two parts of a sweep. -/
inductive Phase where
  | expired | stale
  deriving DecidableEq

/-- How far a call is. -/
inductive Stage where
  | started
  /-- Initialize: the file fits in the quota. -/
  | permitted
  /-- Save: the file is pending, the object is to be put. -/
  | uploading
  /-- Save: the object is put, its row is to be inserted. -/
  | stored (key : ObjectKey) (size : Int)
  /-- Save: the object is to be deleted. -/
  | discarding (key : ObjectKey) (err : UploadError)
  /-- Finalize: the file is read, its chunks are next. -/
  | found (file : FileMetadata)
  /-- Finalize: the chunks still to be read, and the size and the content of those that have been. -/
  | hashing (file : FileMetadata) (chunks : List (Int × FileChunk)) (index : Nat) (totalSize : Int) (bytes : List UInt8)
  /-- Finalize: everything is verified. -/
  | verified
  /-- Sweep: files selected at a time, the objects of the first one being next. -/
  | deleting (phase : Phase) (selectedAt : Nat) (files : List UUID)
  /-- Sweep: the row of the first file is next. -/
  | dropping (phase : Phase) (selectedAt : Nat) (files : List UUID)
  | failed (err : UploadError)
  | succeeded (fileID : Option UUID)
  deriving DecidableEq

structure Call where
  request : Request
  stage : Stage
  deriving DecidableEq

def Call.begin (request : Request) : Call := ⟨request, .started⟩

/-! ## Checks -/

/-- The checks of `InitializeUpload` before the quota. -/
def checkUpload (userID : UUID) (fileName : String) (fileSize : Int) (fileHash : String) : Except UploadError Unit := do
  ensure .user (userID ≠ .nil)
  ensure .fileSize (0 < fileSize && fileSize ≤ maxFileBytes)
  ensure .fileName (0 < len fileName && len fileName ≤ 255)
  ensure .fileHash (fixedHex fileHash 32)

/-- `enforceUserQuota`; `none` is a query that failed. -/
def enforceUserQuota (quota requestedBytes : Int) (currentBytes : Option Int) : Except UploadError Unit :=
  if requestedBytes > quota then .error .quota
  else
    match currentBytes with
    | none => .error .system
    | some currentBytes => ensure .quota (currentBytes ≤ quota - requestedBytes)

/-- The checks of `SaveChunk`; the result is the content and the hash that is expected. -/
def checkChunk (userID fileID : UUID) (chunkIndex : Int) (chunkHash : String) (content : Option (List UInt8)) :
    Except UploadError (List UInt8 × List UInt8) := do
  ensure .upload (userID ≠ .nil && fileID ≠ .nil && content.isSome)
  ensure .chunkIndex (0 ≤ chunkIndex)
  ensure .chunkHash (fixedHex chunkHash 32)
  match hexDecode chunkHash.toList with
  | none => .error .chunkHash
  | some expectedHash => return (content.getD [], expectedHash)

def hashes (sha256 : List UInt8 → List UInt8) (hash : String) (content : List UInt8) : Bool :=
  (hexDecode hash.toList).any fun expected => expected.length = 32 && sha256 content = expected

/-- What `FinalizeUpload` asks of a chunk's row. -/
def validChunk (file : FileMetadata) (index : Nat) (totalSize : Int) (chunk : Int × FileChunk) : Bool :=
  chunk.1 = index && 0 < chunk.2.chunkSize && chunk.2.chunkSize ≤ maxChunkBytes &&
    totalSize ≤ file.fileSize - chunk.2.chunkSize &&
    (hexDecode chunk.2.chunkHash.toList).any fun expected => expected.length = 32

/-! ## Steps -/

section Steps

variable (sha256 : List UInt8 → List UInt8) (service : Service) (tick : Tick) (s : Store)

/-- `InitializeUpload`. -/
def nextInitialize (userID : UUID) (fileName : String) (fileSize : Int) (mimeType fileHash : String) :
    Stage → Store × Stage
  | .started =>
    match do
      checkUpload userID fileName fileSize fileHash
      enforceUserQuota (effectiveUserQuotaBytes service) fileSize
        (if tick.fails then none else some (sumStoredFileBytesForUser s userID)) with
    | .error err => (s, .failed err)
    | .ok () => (s, .permitted)
  | .permitted =>
    match if tick.fails then none else createFileMetadata s tick.now tick.id
      ⟨userID, fileName, fileSize, fileHash, mimeType, .pending, "", ""⟩ with
    | none => (s, .failed .system)
    | some s' => (s', .succeeded (some tick.id))
  | stage => (s, stage)

/-- `SaveChunkContext`. -/
def nextSave (userID fileID : UUID) (chunkIndex : Int) (chunkHash : String) (content : Option (List UInt8)) :
    Stage → Store × Stage
  | .started =>
    match checkChunk userID fileID chunkIndex chunkHash content with
    | .error err => (s, .failed err)
    | .ok _ =>
      match if tick.fails then none else findPendingFileForUser s fileID userID with
      | none => (s, .failed .access)
      | some _ => (s, .uploading)
  | .uploading =>
    match checkChunk userID fileID chunkIndex chunkHash content with
    | .error err => (s, .failed err)
    | .ok (content, expectedHash) =>
      let key : ObjectKey := ⟨fileID, chunkIndex, tick.id⟩
      if tick.fails then (s, .failed .system)
      else if content = [] ∨ maxChunkBytes < content.length then (s, .failed .boundary)
      else if sha256 content = expectedHash then (putObject s key content, .stored key content.length)
      else (putObject s key content, .discarding key .chunkIntegrity)
  | .stored key size =>
    match if tick.fails then none else createFileChunk s fileID chunkIndex ⟨chunkHash, size, key⟩ with
    | none => (s, .discarding key (if tick.fails ∨ isPending s fileID then .system else .noRows))
    | some s' => (s', .succeeded none)
  | .discarding key err =>
    -- an error is ignored
    (if tick.fails then s else deleteObject s key, .failed err)
  | stage => (s, stage)

def hashChunk (file : FileMetadata) (chunk : Int × FileChunk) (chunks : List (Int × FileChunk)) (index : Nat)
    (totalSize : Int) (bytes : List UInt8) : Stage :=
  if !validChunk file index totalSize chunk then .failed .manifest
  else
    match if tick.fails then none else s.objects.get? chunk.2.minioID with
    | none => .failed .object
    | some content =>
      if (content.length : Int) ≠ chunk.2.chunkSize then .failed .objectSize
      else if !hashes sha256 chunk.2.chunkHash content then .failed .chunkMismatch
      else .hashing file chunks (index + 1) (totalSize + chunk.2.chunkSize) (bytes ++ content)

/-- `FinalizeUploadContext`. -/
def nextFinalize (fileID userID : UUID) : Stage → Store × Stage
  | .started =>
    if fileID = .nil ∨ userID = .nil then (s, .failed .finalize)
    else
      match if tick.fails then none else findPendingFileForUser s fileID userID with
      | none => (s, .failed .authorization)
      | some file => (s, .found file)
  | .found file =>
    if tick.fails then (s, .failed .system)
    else if (findFileChunks s fileID).isEmpty then (s, .failed .noChunks)
    else (s, .hashing file (findFileChunks s fileID) 0 0 [])
  | .hashing file (chunk :: chunks) index totalSize bytes =>
    (s, hashChunk sha256 tick s file chunk chunks index totalSize bytes)
  | .hashing file [] _ totalSize bytes =>
    if totalSize ≠ file.fileSize then (s, .failed .sizeMismatch)
    else if hashes sha256 file.fileHash bytes then (s, .verified)
    else (s, .failed .fileMismatch)
  | .verified =>
    match if tick.fails then none else finalizePendingUpload s tick.now fileID userID with
    | none => (s, .failed (if tick.fails then .system else .authorization))
    | some s' => (s', .succeeded (some fileID))
  | stage => (s, stage)

/-- `SweepExpiredFiles`. Errors of a deletion are ignored. -/
def nextSweep : Stage → Store × Stage
  | .started =>
    if tick.fails then (s, .failed .system)
    else (s, .deleting .expired tick.now (findExpiredFiles s (rfc3339 (tick.now - retention))))
  | .deleting phase selectedAt (fileID :: files) =>
    (if tick.fails then s else deleteObjectsOf s fileID, .dropping phase selectedAt (fileID :: files))
  | .dropping phase selectedAt (fileID :: files) =>
    (if tick.fails then s else deleteFileMetadata s fileID, .deleting phase selectedAt files)
  | .deleting .expired _ [] =>
    if tick.fails then (s, .failed .system)
    else (s, .deleting .stale tick.now
      (findStalePendingFiles s (rfc3339 (tick.now - effectivePendingUploadTTL service))))
  | .deleting .stale _ [] => (s, .succeeded none)
  | stage => (s, stage)

def nextStage : Request → Stage → Store × Stage
  | .initializeUpload userID fileName fileSize mimeType fileHash =>
    nextInitialize service tick s userID fileName fileSize mimeType fileHash
  | .saveChunk userID fileID chunkIndex chunkHash content =>
    nextSave sha256 tick s userID fileID chunkIndex chunkHash content
  | .finalizeUpload fileID userID => nextFinalize sha256 tick s fileID userID
  | .sweepExpiredFiles => nextSweep service tick s

def next (call : Call) : Store × Call :=
  ((nextStage sha256 service tick s call.request call.stage).1,
    ⟨call.request, (nextStage sha256 service tick s call.request call.stage).2⟩)

end Steps

/-- The store and the calls over it. -/
abbrev System := Pool Store Call

abbrev Event := Pool.Event Request Tick

def step (sha256 : List UInt8 → List UInt8) (service : Service) : System → Event → System :=
  Pool.step Call.begin (next sha256 service)

def fresh (s : Store) : System := ⟨s, Table.empty⟩

/-! ## What a step does -/

/-- What the step of a call may do to the store: nothing, or the statement of its stage. -/
inductive Effect (tick : Tick) (s : Store) : Call → Store → Prop where
  | none (call : Call) : Effect tick s call s
  | create {userID : UUID} {fileName : String} {fileSize : Int} {mimeType fileHash : String} {s' : Store}
      (h : createFileMetadata s tick.now tick.id ⟨userID, fileName, fileSize, fileHash, mimeType, .pending, "", ""⟩ =
        some s') :
      Effect tick s ⟨.initializeUpload userID fileName fileSize mimeType fileHash, .permitted⟩ s'
  | put {userID fileID : UUID} {chunkIndex : Int} {chunkHash : String} {content : List UInt8}
      (hsize : content ≠ [] ∧ (content.length : Int) ≤ maxChunkBytes) :
      Effect tick s ⟨.saveChunk userID fileID chunkIndex chunkHash (some content), .uploading⟩
        (putObject s ⟨fileID, chunkIndex, tick.id⟩ content)
  | insert {userID fileID : UUID} {chunkIndex : Int} {chunkHash : String} {content : Option (List UInt8)}
      {key : ObjectKey} {size : Int} {s' : Store}
      (h : createFileChunk s fileID chunkIndex ⟨chunkHash, size, key⟩ = some s') :
      Effect tick s ⟨.saveChunk userID fileID chunkIndex chunkHash content, .stored key size⟩ s'
  | discard {userID fileID : UUID} {chunkIndex : Int} {chunkHash : String} {content : Option (List UInt8)}
      {key : ObjectKey} {err : UploadError} :
      Effect tick s ⟨.saveChunk userID fileID chunkIndex chunkHash content, .discarding key err⟩ (deleteObject s key)
  | finalize {fileID userID : UUID} {s' : Store} (h : finalizePendingUpload s tick.now fileID userID = some s') :
      Effect tick s ⟨.finalizeUpload fileID userID, .verified⟩ s'
  | deleteObjects {phase : Phase} {selectedAt : Nat} {fileID : UUID} {files : List UUID} :
      Effect tick s ⟨.sweepExpiredFiles, .deleting phase selectedAt (fileID :: files)⟩ (deleteObjectsOf s fileID)
  | deleteFile {phase : Phase} {selectedAt : Nat} {fileID : UUID} {files : List UUID} :
      Effect tick s ⟨.sweepExpiredFiles, .dropping phase selectedAt (fileID :: files)⟩ (deleteFileMetadata s fileID)

section Effects

variable {sha256 : List UInt8 → List UInt8} {service : Service} {tick : Tick} {s : Store}

@[grind →]
theorem checkChunk_ok {userID fileID : UUID} {chunkIndex : Int} {chunkHash : String} {content : Option (List UInt8)}
    {bytes expected : List UInt8} (h : checkChunk userID fileID chunkIndex chunkHash content = .ok (bytes, expected)) :
    content = some bytes ∧ hexDecode chunkHash.toList = some expected := by
  unfold checkChunk at h
  obtain ⟨_, hupload, h⟩ := bind_eq_ok.1 h
  obtain ⟨_, -, h⟩ := bind_eq_ok.1 h
  obtain ⟨_, -, h⟩ := bind_eq_ok.1 h
  rw [ensure_eq_ok, Bool.and_eq_true] at hupload
  obtain ⟨content, rfl⟩ := Option.isSome_iff_exists.1 hupload.2
  split at h
  · cases h
  rename_i hash hdecode
  obtain ⟨rfl, rfl⟩ := Prod.mk.inj (Except.ok.inj h)
  exact ⟨rfl, hdecode⟩

theorem next_effect (sha256 : List UInt8 → List UInt8) (service : Service) (tick : Tick) (s : Store) (call : Call) :
    Effect tick s call (next sha256 service tick s call).1 := by
  obtain ⟨request, stage⟩ := call
  cases request with
  | initializeUpload userID fileName fileSize mimeType fileHash =>
    simp only [next, nextStage]
    fun_cases nextInitialize <;> grind [Effect]
  | saveChunk userID fileID chunkIndex chunkHash content =>
    simp only [next, nextStage]
    fun_cases nextSave <;> grind [Effect]
  | finalizeUpload fileID userID =>
    simp only [next, nextStage]
    fun_cases nextFinalize <;> grind [Effect]
  | sweepExpiredFiles =>
    simp only [next, nextStage]
    fun_cases nextSweep <;> grind [Effect]

/-- What a step may do to the row of one file. -/
inductive FileEffect (tick : Tick) (fileID : UUID) (s : Store) : Call → Option FileMetadata → Prop where
  | same (call : Call) : FileEffect tick fileID s call (s.files.get? fileID)
  | created {userID : UUID} {fileName : String} {fileSize : Int} {mimeType fileHash : String} (hid : tick.id = fileID)
      (hfree : s.files.get? fileID = none) :
      FileEffect tick fileID s ⟨.initializeUpload userID fileName fileSize mimeType fileHash, .permitted⟩
        (some ⟨userID, fileName, fileSize, fileHash, mimeType, .pending, formatTime tick.now, formatTime tick.now⟩)
  | finalized {userID : UUID} {file : FileMetadata} (hfile : s.files.get? fileID = some file)
      (hpending : file.status = .pending) (hassembled : isAssembled file.fileSize (chunksOf s fileID) = true)
      (hupdate : (finalizePendingUpload s tick.now fileID userID).isSome = true) :
      FileEffect tick fileID s ⟨.finalizeUpload fileID userID, .verified⟩
        (some { file with status := .complete, updatedAt := formatTime tick.now })
  | deleted {phase : Phase} {selectedAt : Nat} {files : List UUID} :
      FileEffect tick fileID s ⟨.sweepExpiredFiles, .dropping phase selectedAt (fileID :: files)⟩ none

theorem FileEffect.of_eq {fileID : UUID} {call : Call} {row : Option FileMetadata} (h : row = s.files.get? fileID) :
    FileEffect tick fileID s call row := h ▸ .same call

theorem Effect.file {call : Call} {s' : Store} (h : Effect tick s call s') (fileID : UUID) :
    FileEffect tick fileID s call (s'.files.get? fileID) := by
  cases h with
  | create h =>
    grind [Table.get?_insertOrIgnore, FileEffect]
  | insert h =>
    grind [FileEffect]
  | @finalize id userID _ h =>
    obtain ⟨file, hfile, hpending, hassembled, rfl⟩ := finalizePendingUpload_some h
    by_cases hid : id = fileID
    · grind [Table.get?_updateWhere, FileEffect]
    · exact .of_eq (by simp [Ne.symm hid])
  | @deleteFile _ _ id _ =>
    by_cases hid : id = fileID
    · subst hid
      have hgone : (deleteFileMetadata s id).files.get? id = Option.none := by
        simp [deleteFileMetadata]
      rw [hgone]
      exact .deleted
    · exact .of_eq (Table.get?_deleteWhere_of_forall fun _ => decide_eq_false (Ne.symm hid))
  | none | put | discard | deleteObjects => exact .same _

end Effects

/-! ## Samples -/

def emptyStore : Store := ⟨Table.empty, Table.empty, Table.empty⟩

def sampleSha256 (_ : List UInt8) : List UInt8 := List.replicate 32 0

def sampleHash : String := String.ofList (List.replicate 64 '0')

def sampleTick (now : Nat) (id : UInt8) : Tick := ⟨now, .ofByte id, false⟩

def sampleSteps (n now : Nat) (id : UInt8) (request : Request) (steps : Nat) : List Event :=
  .start n request :: List.replicate steps (.advance n (sampleTick now id))

def sampleInitialize (n now : Nat) (id : UInt8) (fileSize : Int) : List Event :=
  sampleSteps n now id (.initializeUpload (.ofByte 1) "f" fileSize "" sampleHash) 2

def sampleSave (n now : Nat) (id : UInt8) (chunkIndex : Int) (content : List UInt8) : List Event :=
  sampleSteps n now id (.saveChunk (.ofByte 1) (.ofByte id) chunkIndex sampleHash (some content)) 3

end GaiaCom.Storage
