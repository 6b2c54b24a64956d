/-
Files, their chunks and the objects that hold the chunks: sql_store_storage_gaiadrop.go and object_store.go. A file's
chunks have different indices, and a file that is deleted takes them with it. The object store keeps what is put under a
key; the key of a chunk names the file, the index and a drawn id, and the objects of a file can be deleted together.
-/
import GaiaCom.Core.Uuid
import GaiaCom.Lib.Table
import GaiaCom.Store.Column
import Mathlib.Algebra.BigOperators.Group.List.Basic
import Mathlib.Data.List.Sort

namespace GaiaCom.Storage

open Lib Core GaiaCom.Store

/-! ## Tables -/

inductive Status where
  | pending | complete
  deriving DecidableEq

/-- A row of file_metadata. -/
structure FileMetadata where
  userID : UUID
  fileName : String
  fileSize : Int
  fileHash : String
  mimeType : String
  status : Status
  createdAt : String
  updatedAt : String
  deriving DecidableEq

/-- `chunkObjectKey`. -/
structure ObjectKey where
  fileID : UUID
  chunkIndex : Int
  id : UUID
  deriving DecidableEq

/-- A row of file_chunks, without the file and the index. -/
structure FileChunk where
  chunkHash : String
  chunkSize : Int
  minioID : ObjectKey
  deriving DecidableEq

/-- The tables and the object store. -/
structure Store where
  files : Table UUID FileMetadata
  chunks : Table (UUID × Int) FileChunk
  objects : Table ObjectKey (List UInt8)

/-! ## Queries -/

section Queries

variable (s : Store)

def chunksOf (fileID : UUID) : List (Int × FileChunk) :=
  (s.chunks.rows.filter fun r => r.1.1 = fileID).map fun r => (r.1.2, r.2)

/-- `FindFileChunks`: by their indices. -/
def findFileChunks (fileID : UUID) : List (Int × FileChunk) :=
  (chunksOf s fileID).insertionSort fun a b => a.1 ≤ b.1

def findPendingFileForUser (fileID userID : UUID) : Option FileMetadata :=
  (s.files.get? fileID).filter fun file => file.userID = userID && file.status = .pending

/-- `SumStoredFileBytesForUser`; every status is one of those that count. -/
def sumStoredFileBytesForUser (userID : UUID) : Int :=
  ((s.files.rows.filter fun r => r.2.userID = userID).map fun r => r.2.fileSize).sum

def findExpiredFiles (cutoff : String) : List UUID :=
  (s.files.rows.filter fun r => r.2.createdAt < cutoff && r.2.status = .complete).map Prod.fst

def findStalePendingFiles (cutoff : String) : List UUID :=
  (s.files.rows.filter fun r => r.2.updatedAt < cutoff && r.2.status = .pending).map Prod.fst

end Queries

/-! ## Statements

`none` is a constraint that fails or a statement that changes no row. -/

section Statements

variable (s : Store) (now : Nat)

def createFileMetadata (fileID : UUID) (file : FileMetadata) : Option Store :=
  if (s.files.get? fileID).isSome then none
  else some { s with
    files := s.files.insertOrIgnore fileID { file with createdAt := formatTime now, updatedAt := formatTime now } }

def isPending (fileID : UUID) : Bool := (s.files.get? fileID).any fun file => file.status = .pending

/-- The insert of `CreateFileChunk`, which is made for a pending file only. -/
def createFileChunk (fileID : UUID) (index : Int) (chunk : FileChunk) : Option Store :=
  if isPending s fileID = false ∨ (s.chunks.get? (fileID, index)).isSome then none
  else some { s with chunks := s.chunks.insertOrIgnore (fileID, index) chunk }

/-- What the update of `FinalizePendingUpload` asks of the chunks. -/
def isAssembled (fileSize : Int) (chunks : List (Int × FileChunk)) : Bool :=
  !chunks.isEmpty && fileSize = (chunks.map fun c => c.2.chunkSize).sum &&
    (chunks.map Prod.fst).min? = some 0 && (chunks.map Prod.fst).max? = some (chunks.length - 1) &&
    chunks.all fun c => 0 < c.2.chunkSize

/-- `FinalizePendingUpload`. -/
def finalizePendingUpload (fileID userID : UUID) : Option Store :=
  match findPendingFileForUser s fileID userID with
  | none => none
  | some file =>
    if isAssembled file.fileSize (chunksOf s fileID) then
      some { s with files := s.files.updateWhere (fun id _ => id = fileID) fun file =>
        { file with status := .complete, updatedAt := formatTime now } }
    else none

/-- `DeleteFileMetadata`. -/
def deleteFileMetadata (fileID : UUID) : Store :=
  { s with
    files := s.files.deleteWhere fun id _ => id = fileID
    chunks := s.chunks.deleteWhere fun key _ => key.1 = fileID }

/-- `Put` of the object store. -/
def putObject (key : ObjectKey) (content : List UInt8) : Store := { s with objects := s.objects.put key content }

/-- `Delete` of the object store. -/
def deleteObject (key : ObjectKey) : Store := { s with objects := s.objects.deleteWhere fun k _ => k = key }

/-- `DeletePrefix` of the object store with a file's id. -/
def deleteObjectsOf (fileID : UUID) : Store := { s with objects := s.objects.deleteWhere fun k _ => k.fileID = fileID }

end Statements

/-! ## What the statements do -/

section Lemmas

variable {s s' : Store} {now : Nat} {fileID userID : UUID} {index : Int}

theorem mem_chunksOf {c : Int × FileChunk} : c ∈ chunksOf s fileID ↔ s.chunks.get? (fileID, c.1) = some c.2 := by
  rw [Table.get?_eq_some]
  simp only [chunksOf, List.mem_map, List.mem_filter, decide_eq_true_eq]
  grind

theorem nodup_chunksOf (s : Store) (fileID : UUID) : ((chunksOf s fileID).map Prod.fst).Nodup := by
  have hkeys : ((chunksOf s fileID).map Prod.fst).map (fun index => (fileID, index)) =
      (s.chunks.rows.filter fun r => r.1.1 = fileID).map Prod.fst := by
    rw [chunksOf, List.map_map, List.map_map]
    refine List.map_congr_left fun r hr => ?_
    have hid : r.1.1 = fileID := of_decide_eq_true (List.mem_filter.1 hr).2
    rw [Function.comp_apply, Function.comp_apply, ← hid]
  have hnodup : (((chunksOf s fileID).map Prod.fst).map fun index => (fileID, index)).Nodup := by
    rw [hkeys]
    exact (List.filter_sublist.map Prod.fst).nodup s.chunks.nodup
  exact hnodup.of_map _

@[grind →]
theorem findPendingFileForUser_some {file : FileMetadata} (h : findPendingFileForUser s fileID userID = some file) :
    s.files.get? fileID = some file ∧ file.userID = userID ∧ file.status = .pending := by
  obtain ⟨hget, hok⟩ := Option.filter_eq_some_iff.1 h
  rw [Bool.and_eq_true, decide_eq_true_eq, decide_eq_true_eq] at hok
  exact ⟨hget, hok⟩

@[grind →]
theorem createFileMetadata_some {file : FileMetadata} (h : createFileMetadata s now fileID file = some s') :
    s.files.get? fileID = none ∧ s' = { s with
      files := s.files.insertOrIgnore fileID { file with createdAt := formatTime now, updatedAt := formatTime now } } := by
  unfold createFileMetadata at h
  split at h
  · cases h
  rename_i hfree
  rw [Bool.not_eq_true, Option.isSome_eq_false_iff, Option.isNone_iff_eq_none] at hfree
  exact ⟨hfree, (Option.some.inj h).symm⟩

@[grind →]
theorem createFileChunk_some {chunk : FileChunk} (h : createFileChunk s fileID index chunk = some s') :
    isPending s fileID = true ∧ s.chunks.get? (fileID, index) = none ∧
      s' = { s with chunks := s.chunks.insertOrIgnore (fileID, index) chunk } := by
  unfold createFileChunk at h
  split at h
  · cases h
  rename_i hok
  rw [not_or, Bool.not_eq_false, Bool.not_eq_true, Option.isSome_eq_false_iff, Option.isNone_iff_eq_none] at hok
  exact ⟨hok.1, hok.2, (Option.some.inj h).symm⟩

@[grind →]
theorem finalizePendingUpload_some (h : finalizePendingUpload s now fileID userID = some s') :
    ∃ file, s.files.get? fileID = some file ∧ file.status = .pending ∧
      isAssembled file.fileSize (chunksOf s fileID) = true ∧
      s' = { s with files := s.files.updateWhere (fun id _ => id = fileID) fun file =>
        { file with status := .complete, updatedAt := formatTime now } } := by
  unfold finalizePendingUpload at h
  split at h
  · cases h
  rename_i file hfile
  obtain ⟨hget, -, hpending⟩ := findPendingFileForUser_some hfile
  split at h
  · rename_i hassembled
    exact ⟨file, hget, hpending, hassembled, (Option.some.inj h).symm⟩
  · cases h

end Lemmas

end GaiaCom.Storage
