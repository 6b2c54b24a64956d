/-
A file that is complete is what was announced, and stays so until it is deleted.

`FinalizeUpload` reads the rows of the chunks and then their objects one after the other, while chunks are still being
uploaded, and only then updates the file. No row it has read can go or change, and the objects of rows are never touched
again because keys are fresh. What it has read adds up to the announced size, and the update asks the same of all chunks
there are then, none of which is empty: so there is no other one, and what was hashed is the file
(`completed_uploads_intact`).
-/
import GaiaCom.Storage.Service

namespace GaiaCom.Storage

open Lib Core GaiaCom.Store

/-! ## Files that are intact -/

def totalOf (chunks : List (Int × FileChunk)) : Int := (chunks.map fun c => c.2.chunkSize).sum

/-- The indices are `0` up to the number of chunks, in this order. -/
def Consecutive (chunks : List (Int × FileChunk)) : Prop :=
  chunks.map Prod.fst = (List.range chunks.length).map Int.ofNat

/-- The objects of the chunks have these contents, which are of the sizes of the chunks. -/
structure Contents (s : Store) (chunks : List (Int × FileChunk)) (contents : List (List UInt8)) : Prop where
  objects : chunks.map (fun c => s.objects.get? c.2.minioID) = contents.map some
  sizes : chunks.map (fun c => c.2.chunkSize) = contents.map fun content => (content.length : Int)

/-- The chunks of a file have the indices from `0` on once each, their sizes make up the size of the file, and the
contents of their objects in this order hash to its hash. -/
structure Intact (sha256 : List UInt8 → List UInt8) (s : Store) (fileID : UUID) (file : FileMetadata) : Prop where
  indices : Consecutive (findFileChunks s fileID)
  size : totalOf (findFileChunks s fileID) = file.fileSize
  content : ∃ contents, Contents s (findFileChunks s fileID) contents ∧
    hashes sha256 file.fileHash contents.flatten = true

/-- The objects of the file's chunks are under its own keys, and the file is intact if it is complete. -/
structure Sound (sha256 : List UInt8 → List UInt8) (s : Store) (fileID : UUID) : Prop where
  keys : ∀ c ∈ chunksOf s fileID, c.2.minioID.fileID = fileID
  intact : ∀ file, s.files.get? fileID = some file → file.status = .complete → Intact sha256 s fileID file

/-! ## Runs up to a deletion -/

/-- The key under which a call has put an object whose row is still to be inserted or which is to be deleted. -/
def Call.key : Call → Option ObjectKey
  | ⟨.saveChunk _ _ _ _ _, .stored key _⟩ => some key
  | ⟨.saveChunk _ _ _ _ _, .discarding key _⟩ => some key
  | _ => none

def isFreshKey (p : System) (key : ObjectKey) : Bool :=
  (p.shared.chunks.rows.all fun r => r.2.minioID ≠ key) && p.calls.rows.all fun r => r.2.key ≠ some key

def Call.undisturbed (fileID : UUID) (p : System) (tick : Tick) : Call → Bool
  | ⟨.saveChunk _ id chunkIndex _ _, .uploading⟩ => isFreshKey p ⟨id, chunkIndex, tick.id⟩
  | ⟨.sweepExpiredFiles, .deleting _ _ (id :: _)⟩ => id ≠ fileID
  | ⟨.sweepExpiredFiles, .dropping _ _ (id :: _)⟩ => id ≠ fileID
  | _ => true

def Undisturbed (fileID : UUID) (p : System) : Event → Prop
  | .start _ _ => True
  | .advance n tick => ∀ call ∈ p.calls.get? n, call.undisturbed fileID p tick = true

instance (fileID : UUID) (p : System) : DecidablePred (Undisturbed fileID p)
  | .start _ _ => .isTrue trivial
  | .advance n tick => inferInstanceAs (Decidable (∀ call ∈ p.calls.get? n, call.undisturbed fileID p tick = true))

/-- If the file is complete, the event changes nothing of it: not its row, not its chunks, not their objects. -/
def Frozen (sha256 : List UInt8 → List UInt8) (service : Service) (fileID : UUID) (p : System) (e : Event) : Prop :=
  ∀ file, p.shared.files.get? fileID = some file → file.status = .complete →
    (step sha256 service p e).shared.files.get? fileID = some file ∧
    findFileChunks (step sha256 service p e).shared fileID = findFileChunks p.shared fileID ∧
    ∀ c ∈ findFileChunks p.shared fileID,
      (step sha256 service p e).shared.objects.get? c.2.minioID = p.shared.objects.get? c.2.minioID

/-! ## What was read -/

/-- The row of the file has this size and hash. -/
def Described (s : Store) (fileID : UUID) (file : FileMetadata) : Prop :=
  ∃ row, s.files.get? fileID = some row ∧ row.fileSize = file.fileSize ∧ row.fileHash = file.fileHash

/-- Chunks of the file that have been read, with their contents. -/
structure Read (s : Store) (fileID : UUID) (chunks : List (Int × FileChunk)) (contents : List (List UInt8)) : Prop where
  rows : ∀ c ∈ chunks, c ∈ chunksOf s fileID
  indices : Consecutive chunks
  contents : Contents s chunks contents

/-- The loop over the chunks: there are chunks still to be read, and those read have this size and content. -/
def Reading (s : Store) (fileID : UUID) (file : FileMetadata) (rest : List (Int × FileChunk)) (index : Nat)
    (totalSize : Int) (bytes : List UInt8) : Prop :=
  Described s fileID file ∧ (∀ c ∈ rest, c ∈ chunksOf s fileID) ∧ ∃ chunks contents, Read s fileID chunks contents ∧
    index = chunks.length ∧ totalSize = totalOf chunks ∧ bytes = contents.flatten

/-- What is known of a call on its way. -/
def Call.Sure (sha256 : List UInt8 → List UInt8) (fileID : UUID) (s : Store) : Call → Prop
  | ⟨.saveChunk _ id _ _ _, .stored key _⟩ => key.fileID = id ∧ ∀ r ∈ s.chunks.rows, r.2.minioID ≠ key
  | ⟨.saveChunk _ _ _ _ _, .discarding key _⟩ => ∀ r ∈ s.chunks.rows, r.2.minioID ≠ key
  | ⟨.finalizeUpload id _, .found file⟩ => id = fileID → Described s fileID file
  | ⟨.finalizeUpload id _, .hashing file rest index totalSize bytes⟩ =>
    id = fileID → Reading s fileID file rest index totalSize bytes
  | ⟨.finalizeUpload id _, .verified⟩ => id = fileID → ∃ file, Described s fileID file ∧ ∃ chunks contents,
    Read s fileID chunks contents ∧ totalOf chunks = file.fileSize ∧ hashes sha256 file.fileHash contents.flatten = true
  | _ => True

/-- What a step leaves of the file: its size and hash, the rows of its chunks and their objects. -/
structure Keeps (fileID : UUID) (s s' : Store) : Prop where
  file : ∀ file, Described s fileID file → Described s' fileID file
  rows : ∀ c ∈ chunksOf s fileID, c ∈ chunksOf s' fileID
  objects : ∀ c ∈ chunksOf s fileID, s'.objects.get? c.2.minioID = s.objects.get? c.2.minioID

/-- The row of the file stays, and does not become complete. -/
structure Rests (fileID : UUID) (s s' : Store) : Prop where
  row : ∀ file, s.files.get? fileID = some file → s'.files.get? fileID = some file
  complete : ∀ file, s'.files.get? fileID = some file → file.status = .complete → s.files.get? fileID = some file

theorem Rests.of_eq {fileID : UUID} {s s' : Store} (h : s'.files.get? fileID = s.files.get? fileID) :
    Rests fileID s s' where
  row _ hfile := h.trans hfile
  complete _ hfile _ := h.symm.trans hfile

section Reads

variable {sha256 : List UInt8 → List UInt8} {fileID : UUID} {s s' : Store} {chunks : List (Int × FileChunk)}
  {contents : List (List UInt8)}

theorem Contents.congr (h : Contents s chunks contents)
    (hobjects : ∀ c ∈ chunks, s'.objects.get? c.2.minioID = s.objects.get? c.2.minioID) : Contents s' chunks contents where
  objects := (List.map_congr_left hobjects).trans h.objects
  sizes := h.sizes

theorem Read.keep (h : Read s fileID chunks contents) (hkeeps : Keeps fileID s s') : Read s' fileID chunks contents where
  rows c hc := hkeeps.rows c (h.rows c hc)
  indices := h.indices
  contents := h.contents.congr fun c hc => hkeeps.objects c (h.rows c hc)

theorem Read.nil (s : Store) (fileID : UUID) : Read s fileID [] [] := ⟨nofun, rfl, rfl, rfl⟩

theorem Read.snoc (h : Read s fileID chunks contents) {chunk : Int × FileChunk} {content : List UInt8}
    (hrow : chunk ∈ chunksOf s fileID) (hindex : chunk.1 = chunks.length)
    (hobject : s.objects.get? chunk.2.minioID = some content) (hsize : (content.length : Int) = chunk.2.chunkSize) :
    Read s fileID (chunks ++ [chunk]) (contents ++ [content]) := by
  refine ⟨?_, ?_, ?_, ?_⟩
  · intro c hc
    obtain hc | hc := List.mem_append.1 hc
    · exact h.rows c hc
    · exact List.mem_singleton.1 hc ▸ hrow
  · have hbefore := h.indices
    unfold Consecutive at hbefore ⊢
    rw [List.map_append, hbefore, List.length_append, List.length_singleton, List.range_succ, List.map_append,
      List.map_singleton, List.map_singleton, hindex]
    rfl
  · rw [List.map_append, h.contents.objects, List.map_singleton, hobject, List.map_append, List.map_singleton]
  · rw [List.map_append, h.contents.sizes, List.map_singleton, ← hsize, List.map_append, List.map_singleton]

theorem Consecutive.sorted (h : Consecutive chunks) : chunks.Pairwise fun a b => a.1 < b.1 := by
  have hrange : (chunks.map Prod.fst).Pairwise (· < ·) := by
    rw [h, List.pairwise_map]
    exact List.pairwise_lt_range.imp fun hlt => Int.ofNat_lt.2 hlt
  exact List.pairwise_map.1 hrange

theorem Read.all (h : Read s fileID chunks contents) {fileSize : Int} (htotal : totalOf chunks = fileSize)
    (hassembled : isAssembled fileSize (chunksOf s fileID) = true) : findFileChunks s fileID = chunks := by
  simp only [isAssembled, Bool.and_eq_true, decide_eq_true_eq, List.all_eq_true] at hassembled
  obtain ⟨⟨⟨⟨-, hsum⟩, -⟩, -⟩, hpositive⟩ := hassembled
  have hnodup : chunks.Nodup := h.indices.sorted.imp fun hlt heq => absurd (heq ▸ hlt) (lt_irrefl _)
  have hnodup' : (chunksOf s fileID).Nodup := (nodup_chunksOf s fileID).of_map _
  -- a further chunk would add to the size
  have hsubset : ∀ c ∈ chunksOf s fileID, c ∈ chunks := by
    intro c hc
    by_contra hnot
    have hsub : (c :: chunks).Subperm (chunksOf s fileID) :=
      List.subperm_of_subset (List.nodup_cons.2 ⟨hnot, hnodup⟩) (List.cons_subset.2 ⟨hc, h.rows⟩)
    obtain ⟨l, hperm, hsublist⟩ := hsub
    have hle := (hsublist.map fun c => c.2.chunkSize).sum_le_sum fun size hsize => by
      obtain ⟨c, hc, rfl⟩ := List.mem_map.1 hsize
      exact (hpositive c hc).le
    rw [(hperm.map fun c => c.2.chunkSize).sum_eq, ← hsum, ← htotal, List.map_cons, List.sum_cons] at hle
    have hpos := hpositive c hc
    unfold totalOf at hle
    omega
  have hperm : (findFileChunks s fileID).Perm chunks :=
    (List.perm_insertionSort _ _).trans
      ((List.perm_ext_iff_of_nodup hnodup' hnodup).2 fun c => ⟨hsubset c, h.rows c⟩)
  refine hperm.eq_of_pairwise ?_ (List.pairwise_insertionSort _ _) (h.indices.sorted.imp le_of_lt)
  intro a b ha hb hab hba
  exact List.inj_on_of_nodup_map (nodup_chunksOf s fileID) (h.rows a (hperm.subset ha)) (h.rows b hb) (le_antisymm hab hba)

theorem Intact.keep {file : FileMetadata} (h : Intact sha256 s fileID file)
    (hrows : findFileChunks s' fileID = findFileChunks s fileID)
    (hobjects : ∀ c ∈ findFileChunks s fileID, s'.objects.get? c.2.minioID = s.objects.get? c.2.minioID) :
    Intact sha256 s' fileID file := by
  obtain ⟨contents, hcontents, hhash⟩ := h.content
  refine ⟨?_, ?_, contents, ?_, hhash⟩
  · rw [hrows]
    exact h.indices
  · rw [hrows]
    exact h.size
  · rw [hrows]
    exact hcontents.congr hobjects

end Reads

/-! ## What a step does to the file -/

section Steps

variable {sha256 : List UInt8 → List UInt8} {service : Service} {fileID : UUID} {p : System} {tick : Tick} {call : Call}
  {s' : Store}

theorem Effect.chunks (h : Effect tick p.shared call s') (hok : call.undisturbed fileID p tick = true) :
    chunksOf s' fileID = chunksOf p.shared fileID ∨
    ∃ userID chunkIndex chunkHash content key size,
      call = ⟨.saveChunk userID fileID chunkIndex chunkHash content, .stored key size⟩ ∧
      isPending p.shared fileID = true ∧
      chunksOf s' fileID = chunksOf p.shared fileID ++ [(chunkIndex, ⟨chunkHash, size, key⟩)] := by
  cases h with
  | create h =>
    obtain ⟨-, rfl⟩ := createFileMetadata_some h
    exact .inl rfl
  | @insert userID id chunkIndex chunkHash content key size _ h =>
    obtain ⟨hpending, hfree, rfl⟩ := createFileChunk_some h
    by_cases hid : id = fileID
    · subst hid
      refine .inr ⟨userID, chunkIndex, chunkHash, content, key, size, rfl, hpending, ?_⟩
      simp [chunksOf, Table.rows_insertOrIgnore hfree]
    · left
      simp [chunksOf, Table.rows_insertOrIgnore hfree, hid]
  | finalize h =>
    obtain ⟨-, -, -, -, rfl⟩ := finalizePendingUpload_some h
    exact .inl rfl
  | @deleteFile _ _ id _ =>
    left
    have hid : id ≠ fileID := of_decide_eq_true hok
    have hsame : ∀ r ∈ p.shared.chunks.rows, (decide (r.1.1 = fileID) && !decide (r.1.1 = id)) = decide (r.1.1 = fileID) := by
      intro r _
      by_cases hr : r.1.1 = fileID
      · simp [hr, Ne.symm hid]
      · simp [hr]
    simp only [chunksOf, deleteFileMetadata, Table.deleteWhere, List.filter_filter]
    rw [List.filter_congr hsame]
  | none | put | discard | deleteObjects => exact .inl rfl

theorem Effect.mem_chunks (h : Effect tick p.shared call s') {r : (UUID × Int) × FileChunk} (hr : r ∈ s'.chunks.rows) :
    r ∈ p.shared.chunks.rows ∨ call.key = some r.2.minioID := by
  cases h with
  | create h =>
    obtain ⟨-, rfl⟩ := createFileMetadata_some h
    exact .inl hr
  | insert h =>
    obtain ⟨-, hfree, rfl⟩ := createFileChunk_some h
    rw [Table.rows_insertOrIgnore hfree, List.mem_append, List.mem_singleton] at hr
    exact hr.imp_right fun hnew => by rw [hnew]; rfl
  | finalize h =>
    obtain ⟨-, -, -, -, rfl⟩ := finalizePendingUpload_some h
    exact .inl hr
  | deleteFile => exact .inl (List.mem_filter.1 hr).1
  | none | put | discard | deleteObjects => exact .inl hr

theorem Effect.rests (h : Effect tick p.shared call s') (hok : call.undisturbed fileID p tick = true) :
    Rests fileID p.shared s' ∨ ∃ userID file, call = ⟨.finalizeUpload fileID userID, .verified⟩ ∧
      p.shared.files.get? fileID = some file ∧ file.status = .pending ∧
      isAssembled file.fileSize (chunksOf p.shared fileID) = true ∧
      s'.files.get? fileID = some { file with status := .complete, updatedAt := formatTime tick.now } := by
  have hfile := h.file fileID
  generalize hrow : s'.files.get? fileID = row at hfile
  cases hfile with
  | same => exact .inl (.of_eq hrow)
  | created hid hfree =>
    refine .inl ⟨fun file hfile => ?_, fun file hfile hcomplete => ?_⟩
    · rw [hfree] at hfile
      cases hfile
    · rw [hrow] at hfile
      cases hfile
      cases hcomplete
  | @finalized userID file hfile hpending hassembled =>
    exact .inr ⟨userID, file, rfl, hfile, hpending, hassembled, rfl⟩
  | deleted => exact absurd rfl (of_decide_eq_true hok)

theorem Effect.objects (h : Effect tick p.shared call s') (hok : call.undisturbed fileID p tick = true)
    (hsure : call.Sure sha256 fileID p.shared) {r : (UUID × Int) × FileChunk} (hr : r ∈ p.shared.chunks.rows)
    (hkey : r.2.minioID.fileID = fileID) : s'.objects.get? r.2.minioID = p.shared.objects.get? r.2.minioID := by
  cases h with
  | create h =>
    obtain ⟨-, rfl⟩ := createFileMetadata_some h
    rfl
  | put hsize =>
    have hfresh := List.all_eq_true.1 (Bool.and_eq_true_iff.1 hok).1 r hr
    rw [putObject, Table.get?_put, if_neg (of_decide_eq_true hfresh)]
  | insert h =>
    obtain ⟨-, -, rfl⟩ := createFileChunk_some h
    rfl
  | discard => exact Table.get?_deleteWhere_of_forall fun _ => decide_eq_false (hsure r hr)
  | finalize h =>
    obtain ⟨-, -, -, -, rfl⟩ := finalizePendingUpload_some h
    rfl
  | @deleteObjects _ _ id _ =>
    have hid : id ≠ fileID := of_decide_eq_true hok
    exact Table.get?_deleteWhere_of_forall fun _ => decide_eq_false (hkey ▸ hid.symm)
  | none | deleteFile => rfl

variable {s : Store}

theorem mem_rows_of_mem_chunksOf {c : Int × FileChunk} (h : c ∈ chunksOf s fileID) :
    ((fileID, c.1), c.2) ∈ s.chunks.rows :=
  Table.get?_eq_some.1 (mem_chunksOf.1 h)

theorem Effect.keeps (h : Effect tick p.shared call s') (hok : call.undisturbed fileID p tick = true)
    (hsure : call.Sure sha256 fileID p.shared) (hkeys : ∀ c ∈ chunksOf p.shared fileID, c.2.minioID.fileID = fileID) :
    Keeps fileID p.shared s' where
  file := by
    rintro file ⟨row, hrow, hsize, hhash⟩
    obtain hrests | ⟨userID, row', -, hrow', -, -, hnew⟩ := h.rests hok
    · exact ⟨row, hrests.row row hrow, hsize, hhash⟩
    · rw [hrow] at hrow'
      cases hrow'
      exact ⟨_, hnew, hsize, hhash⟩
  rows := by
    intro c hc
    obtain hsame | ⟨userID, chunkIndex, chunkHash, content, key, size, -, -, hadded⟩ := h.chunks hok
    · rw [hsame]
      exact hc
    · rw [hadded]
      exact List.mem_append_left _ hc
  objects c hc := h.objects hok hsure (mem_rows_of_mem_chunksOf hc) (hkeys c hc)

/-! ## What is known of the calls -/

theorem Call.Sure.keep (h : call.Sure sha256 fileID s) (hkeeps : Keeps fileID s s')
    (hnew : ∀ r ∈ s'.chunks.rows, r ∈ s.chunks.rows ∨ call.key ≠ some r.2.minioID) : call.Sure sha256 fileID s' := by
  have hunused : ∀ key, call.key = some key → (∀ r ∈ s.chunks.rows, r.2.minioID ≠ key) →
      ∀ r ∈ s'.chunks.rows, r.2.minioID ≠ key := by
    intro key hkey hold r hr heq
    obtain hr | hne := hnew r hr
    · exact hold r hr heq
    · exact hne (heq ▸ hkey)
  unfold Call.Sure at h ⊢
  split
  · exact ⟨h.1, hunused _ rfl h.2⟩
  · exact hunused _ rfl h
  · exact fun hid => hkeeps.file _ (h hid)
  · intro hid
    obtain ⟨hfile, hrest, chunks, contents, hread, hindex, htotal, hbytes⟩ := h hid
    exact ⟨hkeeps.file _ hfile, fun c hc => hkeeps.rows c (hrest c hc), chunks, contents, hread.keep hkeeps, hindex,
      htotal, hbytes⟩
  · intro hid
    obtain ⟨file, hfile, chunks, contents, hread, htotal, hhash⟩ := h hid
    exact ⟨file, hkeeps.file _ hfile, chunks, contents, hread.keep hkeeps, htotal, hhash⟩
  · trivial

theorem key_next {key : ObjectKey} (hkey : (next sha256 service tick p.shared call).2.key = some key) :
    call.key = some key ∨ ∃ userID id chunkIndex chunkHash content,
      call = ⟨.saveChunk userID id chunkIndex chunkHash content, .uploading⟩ ∧ key = ⟨id, chunkIndex, tick.id⟩ := by
  obtain ⟨request, stage⟩ := call
  cases request with
  | initializeUpload | finalizeUpload | sweepExpiredFiles => cases hkey
  | saveChunk userID id chunkIndex chunkHash content =>
    simp only [next, nextStage] at hkey
    revert hkey
    fun_cases nextSave <;> grind [Call.key]

theorem Reading.snoc {file : FileMetadata} {chunk : Int × FileChunk} {chunks : List (Int × FileChunk)}
    {index : Nat} {totalSize : Int} {bytes content : List UInt8}
    (h : Reading s fileID file (chunk :: chunks) index totalSize bytes)
    (hvalid : ¬ (!validChunk file index totalSize chunk) = true)
    (hobject : s.objects.get? chunk.2.minioID = some content) (hsize : (content.length : Int) = chunk.2.chunkSize) :
    Reading s fileID file chunks (index + 1) (totalSize + chunk.2.chunkSize) (bytes ++ content) := by
  obtain ⟨hfile, hrest, done, contents, hread, hindex, htotal, hbytes⟩ := h
  simp only [validChunk, Bool.not_eq_true', Bool.not_eq_false, Bool.and_eq_true, decide_eq_true_eq] at hvalid
  have hnext : chunk.1 = done.length := by rw [hvalid.1.1.1.1, hindex]
  refine ⟨hfile, fun c hc => hrest c (List.mem_cons_of_mem _ hc), done ++ [chunk], contents ++ [content],
    hread.snoc (hrest chunk List.mem_cons_self) hnext hobject hsize, ?_, ?_, ?_⟩
  · rw [List.length_append, List.length_singleton, hindex]
  · rw [htotal, totalOf, totalOf, List.map_append, List.sum_append, List.map_singleton, List.sum_singleton]
  · rw [hbytes, List.flatten_append, List.flatten_singleton]

theorem sure_next (hok : call.undisturbed fileID p tick = true) (hsure : call.Sure sha256 fileID p.shared) :
    (next sha256 service tick p.shared call).2.Sure sha256 fileID (next sha256 service tick p.shared call).1 := by
  obtain ⟨request, stage⟩ := call
  cases request with
  | initializeUpload | sweepExpiredFiles => trivial
  | saveChunk userID id chunkIndex chunkHash content =>
    have hfresh : Call.undisturbed fileID p tick ⟨.saveChunk userID id chunkIndex chunkHash content, .uploading⟩ = true →
        ∀ r ∈ p.shared.chunks.rows, r.2.minioID ≠ ⟨id, chunkIndex, tick.id⟩ := fun hok r hr =>
      of_decide_eq_true (List.all_eq_true.1 (Bool.and_eq_true_iff.1 hok).1 r hr)
    simp only [next, nextStage]
    fun_cases nextSave <;> try trivial
    · exact ⟨rfl, hfresh hok⟩
    · exact hfresh hok
    · exact hsure.2
  | finalizeUpload id userID =>
    simp only [next, nextStage]
    fun_cases nextFinalize <;> try trivial
    · rename_i file hfile
      rintro rfl
      exact ⟨file, (findPendingFileForUser_some (Option.ite_none_left_eq_some.1 hfile).2).1, rfl, rfl⟩
    · rintro rfl
      exact ⟨hsure rfl, fun c hc => (List.perm_insertionSort _ _).subset hc, [], [], Read.nil _ _, rfl, rfl, rfl⟩
    · fun_cases hashChunk <;> try trivial
      rename_i hvalid content hobject hsize _
      rintro rfl
      exact (hsure rfl).snoc hvalid (Option.ite_none_left_eq_some.1 hobject).2 (not_not.1 hsize)
    · rename_i file _ _ _ hsize hhash
      rintro rfl
      obtain ⟨hfile, -, chunks, contents, hread, -, htotal, rfl⟩ := hsure rfl
      exact ⟨file, hfile, chunks, contents, hread, htotal.symm.trans (not_not.1 hsize), hhash⟩

end Steps

/-! ## Runs -/

/-- What holds in every state that a run reaches. -/
structure Inv (sha256 : List UInt8 → List UInt8) (fileID : UUID) (p : System) : Prop where
  sound : Sound sha256 p.shared fileID
  calls : ∀ n call, p.calls.get? n = some call → call.Sure sha256 fileID p.shared
  distinct : ∀ n m a b key, p.calls.get? n = some a → p.calls.get? m = some b → a.key = some key → b.key = some key →
    n = m

section Runs

variable {sha256 : List UInt8 → List UInt8} {service : Service} {fileID : UUID} {p : System} {n : Nat} {tick : Tick}
  {call : Call}

variable (h : Inv sha256 fileID p) (hcall : p.calls.get? n = some call) (hok : call.undisturbed fileID p tick = true)

include h hcall hok

variable (service) in
theorem Inv.frozen {file : FileMetadata} (hfile : p.shared.files.get? fileID = some file) (hcomplete : file.status = .complete) :
    (next sha256 service tick p.shared call).1.files.get? fileID = some file ∧
    findFileChunks (next sha256 service tick p.shared call).1 fileID = findFileChunks p.shared fileID ∧
    ∀ c ∈ findFileChunks p.shared fileID,
      (next sha256 service tick p.shared call).1.objects.get? c.2.minioID = p.shared.objects.get? c.2.minioID := by
  have heffect := next_effect sha256 service tick p.shared call
  refine ⟨?_, ?_, fun c hc => ?_⟩
  · obtain hrests | ⟨userID, file', -, hfile', hpending, -, -⟩ := heffect.rests hok
    · exact hrests.row file hfile
    · rw [hfile] at hfile'
      cases hfile'
      rw [hcomplete] at hpending
      cases hpending
  · obtain hsame | ⟨userID, chunkIndex, chunkHash, content, key, size, -, hpending, -⟩ := heffect.chunks hok
    · unfold findFileChunks
      rw [hsame]
    · simp [isPending, hfile, hcomplete] at hpending
  · have hmem := (List.perm_insertionSort _ _).subset hc
    exact heffect.objects hok (h.calls n call hcall) (mem_rows_of_mem_chunksOf hmem) (h.sound.keys c hmem)

theorem Inv.intact_next {file : FileMetadata} (hfile : (next sha256 service tick p.shared call).1.files.get? fileID = some file)
    (hcomplete : file.status = .complete) : Intact sha256 (next sha256 service tick p.shared call).1 fileID file := by
  have heffect := next_effect sha256 service tick p.shared call
  obtain hrests | ⟨userID, row, rfl, hrow, -, hassembled, hnew⟩ := heffect.rests hok
  · have hbefore := hrests.complete file hfile hcomplete
    obtain ⟨-, hchunks, hobjects⟩ := h.frozen service hcall hok hbefore hcomplete
    exact (h.sound.intact file hbefore hcomplete).keep hchunks hobjects
  · -- the chunks that were read are all chunks of the file
    have hsure := h.calls n _ hcall
    obtain ⟨announced, ⟨row', hrow', hsize, hhash⟩, chunks, contents, hread, htotal, hhashes⟩ := hsure rfl
    rw [hrow] at hrow'
    cases hrow'
    rw [hnew] at hfile
    cases hfile
    have hall := hread.all (htotal.trans hsize.symm) hassembled
    have hintact : Intact sha256 p.shared fileID { row with status := .complete, updatedAt := formatTime tick.now } :=
      ⟨hall ▸ hread.indices, (congrArg totalOf hall).trans (htotal.trans hsize.symm), contents, hall ▸ hread.contents,
        hhash ▸ hhashes⟩
    refine hintact.keep ?_ fun c hc => ?_
    · obtain hsame | ⟨_, _, _, _, _, _, hother, -⟩ := heffect.chunks hok
      · unfold findFileChunks
        rw [hsame]
      · cases hother
    · have hmem := (List.perm_insertionSort _ _).subset hc
      exact heffect.objects hok hsure (mem_rows_of_mem_chunksOf hmem) (h.sound.keys c hmem)

theorem Inv.keys_next :
    ∀ c ∈ chunksOf (next sha256 service tick p.shared call).1 fileID, c.2.minioID.fileID = fileID := by
  intro c hc
  obtain hsame | ⟨userID, chunkIndex, chunkHash, content, key, size, rfl, -, hadded⟩ :=
    (next_effect sha256 service tick p.shared call).chunks hok
  · exact h.sound.keys c (hsame ▸ hc)
  · rw [hadded, List.mem_append, List.mem_singleton] at hc
    obtain hc | rfl := hc
    · exact h.sound.keys c hc
    · exact (h.calls n _ hcall).1

theorem Inv.distinct_next {m : Nat} {other : Call} (hother : p.calls.get? m = some other)
    {key : ObjectKey} (hkey : (next sha256 service tick p.shared call).2.key = some key) (hkey' : other.key = some key) :
    n = m := by
  obtain hkey | ⟨userID, id, chunkIndex, chunkHash, content, rfl, rfl⟩ := key_next hkey
  · exact h.distinct n m call other key hcall hother hkey hkey'
  · have hfresh := List.all_eq_true.1 (Bool.and_eq_true_iff.1 hok).2 (m, other) (Table.get?_eq_some.1 hother)
    exact absurd hkey' (of_decide_eq_true hfresh)

theorem Inv.advance : Inv sha256 fileID (step sha256 service p (.advance n tick)) := by
  have hsure := h.calls n call hcall
  have heffect := next_effect sha256 service tick p.shared call
  have hkeeps := heffect.keeps hok hsure h.sound.keys
  rw [step, Pool.step_advance hcall]
  refine ⟨⟨h.keys_next hcall hok, fun file hfile hcomplete => h.intact_next hcall hok hfile hcomplete⟩, ?_, ?_⟩
  · intro m other hm
    simp only [Table.get?_put] at hm
    split at hm
    · exact Option.some.inj hm ▸ sure_next hok hsure
    rename_i hne
    refine (h.calls m other hm).keep hkeeps fun r hr => ?_
    obtain hold | hnew := heffect.mem_chunks hr
    · exact .inl hold
    · exact .inr fun hkey => hne (h.distinct m n other call _ hm hcall hkey hnew)
  · intro m m' a b key ha hb hkeya hkeyb
    simp only [Table.get?_put] at ha hb
    split at ha
    · rename_i hm
      split at hb
      · rename_i hm'
        rw [hm, hm']
      · cases ha
        rw [hm]
        exact h.distinct_next hcall hok hb hkeya hkeyb
    · split at hb
      · rename_i hm'
        cases hb
        rw [hm']
        exact (h.distinct_next hcall hok ha hkeyb hkeya).symm
      · exact h.distinct m m' a b key ha hb hkeya hkeyb

omit h hcall hok

theorem Inv.start (h : Inv sha256 fileID p) (m : Nat) (request : Request) :
    Inv sha256 fileID (step sha256 service p (.start m request)) := by
  refine ⟨h.sound, fun n call hcall => ?_, fun n n' a b key ha hb hkeya hkeyb => ?_⟩
  · obtain hold | rfl := Pool.get?_start hcall
    · exact h.calls n call hold
    · cases request with
      | _ => trivial
  · have hold : ∀ n call, (step sha256 service p (.start m request)).calls.get? n = some call → call.key = some key →
        p.calls.get? n = some call := by
      intro n call hcall hkey
      obtain hold | rfl := Pool.get?_start hcall
      · exact hold
      · cases request with
        | _ => cases hkey
    exact h.distinct n n' a b key (hold n a ha hkeya) (hold n' b hb hkeyb) hkeya hkeyb

theorem Inv.event (h : Inv sha256 fileID p) {e : Event} (hok : Undisturbed fileID p e) :
    Inv sha256 fileID (step sha256 service p e) := by
  refine Pool.step_cases h (fun m request _ => h.start m request) ?_
  rintro n tick call rfl hcall
  exact h.advance hcall (hok call hcall)

theorem Inv.frozen_event (h : Inv sha256 fileID p) {e : Event} (hok : Undisturbed fileID p e) :
    Frozen sha256 service fileID p e := by
  intro file hfile hcomplete
  refine Pool.shared_step (P := fun s : Store => s.files.get? fileID = some file ∧ findFileChunks s fileID = _ ∧
    ∀ c ∈ findFileChunks p.shared fileID, s.objects.get? c.2.minioID = p.shared.objects.get? c.2.minioID)
    ⟨hfile, rfl, fun _ _ => rfl⟩ ?_
  rintro n tick call rfl hcall
  exact h.frozen service hcall (hok call hcall) hfile hcomplete

end Runs

/-- In every run with fresh keys and up to a deletion of the file: once it is complete it is intact, and nothing of it
changes any more. -/
theorem completed_uploads_intact (sha256 : List UInt8 → List UInt8) (service : Service) (fileID : UUID) (s : Store)
    (es : List Event) (hsound : Sound sha256 s fileID)
    (hrun : Along (step sha256 service) (Undisturbed fileID) (fresh s) es) :
    (∀ file, (exec (step sha256 service) (fresh s) es).shared.files.get? fileID = some file → file.status = .complete →
      Intact sha256 (exec (step sha256 service) (fresh s) es).shared fileID file) ∧
    Along (step sha256 service) (Frozen sha256 service fileID) (fresh s) es := by
  have hinv : Inv sha256 fileID (fresh s) := by
    refine ⟨hsound, fun n call hcall => ?_, fun n m a b key ha => ?_⟩
    · rw [fresh, Table.get?_empty] at hcall
      cases hcall
    · rw [fresh, Table.get?_empty] at ha
      cases ha
  have hend : Inv sha256 fileID (exec (step sha256 service) (fresh s) es) :=
    Along.invariant (fun p e hp hok => hp.event hok) hinv hrun
  exact ⟨hend.sound.intact, Along.imp_of_invariant (fun p e hp hok => hp.event hok) (fun p e hp hok => hp.frozen_event hok)
    hinv hrun⟩

def sampleUpload : List Event :=
  sampleInitialize 0 0 7 3 ++ sampleSave 1 0 7 1 [3] ++ sampleSave 2 0 7 0 [1, 2] ++
    sampleSteps 3 0 7 (.finalizeUpload (.ofByte 7) (.ofByte 1)) 6

theorem uploaded_in_two_chunks :
    ((exec (step sampleSha256 ⟨10, 0⟩) (fresh emptyStore) sampleUpload).shared.files.get? (.ofByte 7)).map
      FileMetadata.status = some .complete ∧
    (∀ file, (exec (step sampleSha256 ⟨10, 0⟩) (fresh emptyStore) sampleUpload).shared.files.get? (.ofByte 7) =
      some file → file.status = .complete →
        Intact sampleSha256 (exec (step sampleSha256 ⟨10, 0⟩) (fresh emptyStore) sampleUpload).shared (.ofByte 7) file) ∧
    Along (step sampleSha256 ⟨10, 0⟩) (Frozen sampleSha256 ⟨10, 0⟩ (.ofByte 7)) (fresh emptyStore) sampleUpload :=
  ⟨by decide +kernel,
    completed_uploads_intact sampleSha256 ⟨10, 0⟩ (.ofByte 7) emptyStore sampleUpload ⟨nofun, nofun⟩ (by decide +kernel)⟩

end GaiaCom.Storage
