/-
What a pass of the retention sweeper deletes.

`SweepExpiredFiles` selects files in one query and deletes them later, by their ids alone. A file that is finalized
after it was selected as stale is deleted although it is complete and new. Its cutoff is printed without a fraction of a
second, so that columns of that second count as earlier. Apart from these, what is deleted is overdue
(`sweep_deletes_overdue`).
-/
import GaiaCom.Storage.Service

namespace GaiaCom.Storage

open Lib Lib.Calendar Core GaiaCom.Store

/-! ## Files that are overdue -/

def FileMetadata.isStale (service : Service) (now : Nat) (file : FileMetadata) : Bool :=
  file.status = .pending && parseTime file.updatedAt + effectivePendingUploadTTL service < now

def FileMetadata.isExpired (now : Nat) (file : FileMetadata) : Bool :=
  file.status = .complete && parseTime file.createdAt + retention < now

def FileMetadata.isOverdue (service : Service) (now : Nat) (file : FileMetadata) : Phase → Bool
  | .expired => file.isExpired now
  | .stale => file.isStale service now

/-- A column as it is written. -/
def IsColumn (column : String) : Prop := ∃ t, InRange t ∧ column = formatTime t

/-- The columns of a file are as they are written. -/
structure FileMetadata.Stamped (file : FileMetadata) : Prop where
  created : IsColumn file.createdAt
  updated : IsColumn file.updatedAt

/-! ## What a pass deletes -/

def Call.deletes (fileID : UUID) : Call → Bool
  | ⟨.sweepExpiredFiles, .deleting _ _ (id :: _)⟩ => id = fileID
  | ⟨.sweepExpiredFiles, .dropping _ _ (id :: _)⟩ => id = fileID
  | _ => false

/-- `FinalizeUpload` of the file has returned success. -/
def Call.hasFinalized (fileID : UUID) : Call → Bool
  | ⟨.finalizeUpload id _, .succeeded _⟩ => id = fileID
  | _ => false

/-- A file that is deleted is stale or expired at this moment, and expired if its `FinalizeUpload` has returned
success. -/
def Rightly (service : Service) (fileID : UUID) (p : System) : Event → Prop
  | .start _ _ => True
  | .advance n tick => ∀ call ∈ p.calls.get? n, call.deletes fileID = true → ∀ file ∈ p.shared.files.get? fileID,
    (file.isStale service tick.now = true ∨ file.isExpired tick.now = true) ∧
      ((p.calls.rows.any fun r => r.2.hasFinalized fileID) = true → file.isExpired tick.now = true)

instance (service : Service) (fileID : UUID) (p : System) : DecidablePred (Rightly service fileID p)
  | .start _ _ => .isTrue trivial
  | .advance n tick => inferInstanceAs (Decidable (∀ call ∈ p.calls.get? n, call.deletes fileID = true →
    ∀ file ∈ p.shared.files.get? fileID, (file.isStale service tick.now = true ∨ file.isExpired tick.now = true) ∧
      ((p.calls.rows.any fun r => r.2.hasFinalized fileID) = true → file.isExpired tick.now = true)))

/-! ## Runs in which nothing comes between -/

def Call.names (fileID : UUID) : Call → Bool
  | ⟨.finalizeUpload id _, _⟩ => id = fileID
  | ⟨.sweepExpiredFiles, .deleting _ _ files⟩ => fileID ∈ files
  | ⟨.sweepExpiredFiles, .dropping _ _ files⟩ => fileID ∈ files
  | _ => false

def Call.lists (fileID : UUID) : Call → Bool
  | ⟨.sweepExpiredFiles, .deleting .stale _ files⟩ => fileID ∈ files
  | ⟨.sweepExpiredFiles, .dropping .stale _ files⟩ => fileID ∈ files
  | _ => false

/-- A new file has an id that no call names. The file is not finalized while a pass has it on its list. Its columns are
not in the second of a cutoff, and the clock does not run back while a pass deletes. -/
def Call.uncrossed (service : Service) (fileID : UUID) (p : System) (tick : Tick) : Call → Bool
  | ⟨.initializeUpload _ _ _ _ _, .permitted⟩ =>
    tick.id ≠ fileID || p.calls.rows.all fun r => !r.2.names fileID
  | ⟨.finalizeUpload id userID, .verified⟩ =>
    id ≠ fileID || (finalizePendingUpload p.shared tick.now id userID).isNone ||
      p.calls.rows.all fun r => !r.2.lists fileID
  | ⟨.sweepExpiredFiles, .started⟩ => (p.shared.files.get? fileID).all fun file =>
    secondOf (parseTime file.createdAt) ≠ secondOf (tick.now - retention)
  | ⟨.sweepExpiredFiles, .deleting .expired _ []⟩ => (p.shared.files.get? fileID).all fun file =>
    secondOf (parseTime file.updatedAt) ≠ secondOf (tick.now - effectivePendingUploadTTL service)
  | ⟨.sweepExpiredFiles, .deleting _ selectedAt _⟩ => selectedAt ≤ tick.now
  | ⟨.sweepExpiredFiles, .dropping _ selectedAt _⟩ => selectedAt ≤ tick.now
  | _ => true

def Uncrossed (service : Service) (fileID : UUID) (p : System) : Event → Prop
  | .start _ _ => True
  | .advance n tick => InRange tick.now ∧ ∀ call ∈ p.calls.get? n, call.uncrossed service fileID p tick = true

instance (service : Service) (fileID : UUID) (p : System) : DecidablePred (Uncrossed service fileID p)
  | .start _ _ => .isTrue trivial
  | .advance n tick => inferInstanceAs (Decidable (InRange tick.now ∧
    ∀ call ∈ p.calls.get? n, call.uncrossed service fileID p tick = true))

/-! ## Cutoffs -/

theorem lt_of_formatTime_lt_rfc3339 {t cutoff : Nat} (ht : InRange t) (hcutoff : year (dayOf cutoff) ≤ 9999)
    (h : formatTime t < rfc3339 cutoff) (hsecond : secondOf t ≠ secondOf cutoff) : t < cutoff := by
  by_contra hle
  have hlt : secondOf cutoff < secondOf t :=
    lt_of_le_of_ne (Nat.div_le_div_right (not_lt.1 hle)) (Ne.symm hsecond)
  have hfloor : secondOf (cutoff / second * second) = secondOf cutoff := Nat.mul_div_cancel _ (by decide)
  rw [String.lt_iff_toList_lt, formatTime_of_ne ht.1, rfc3339, String.toList_ofList] at h
  refine absurd h (not_lt.2 (le_of_lt ?_))
  unfold rfc3339Nano
  rw [dateValues_congr hfloor]
  have hfits := dateValues_fits 'T' hcutoff
  have hfits' := dateValues_fits 'T' ht.2
  grind [append_lt_append_iff, length_fields, fields_lt_iff, dateValues_lt]

theorem IsColumn.lt_cutoff {column : String} (h : IsColumn column) {now period : Nat} (hnow : InRange now)
    (hlt : column < rfc3339 (now - period)) (hsecond : secondOf (parseTime column) ≠ secondOf (now - period)) :
    parseTime column + period < now := by
  obtain ⟨t, ht, rfl⟩ := h
  rw [parseTime_formatTime ht.2] at hsecond ⊢
  have hcutoff : year (dayOf (now - period)) ≤ 9999 := (year_le_of_le (Nat.sub_le _ _)).trans hnow.2
  have hbefore := lt_of_formatTime_lt_rfc3339 ht hcutoff hlt hsecond
  omega

/-! ## What is known of the calls -/

/-- What a call knows of the row of the file: on a list it is overdue, and once finalized it is complete. -/
def Call.Timely (service : Service) (fileID : UUID) (row : Option FileMetadata) : Call → Prop
  | ⟨.sweepExpiredFiles, .deleting phase selectedAt files⟩ =>
    fileID ∈ files → ∀ file ∈ row, file.isOverdue service selectedAt phase = true
  | ⟨.sweepExpiredFiles, .dropping phase selectedAt files⟩ =>
    fileID ∈ files → ∀ file ∈ row, file.isOverdue service selectedAt phase = true
  | ⟨.finalizeUpload id _, .succeeded _⟩ => id = fileID → ∀ file ∈ row, file.status = .complete
  | _ => True

section Steps

variable {sha256 : List UInt8 → List UInt8} {service : Service} {fileID : UUID} {tick : Tick} {p : System} {s : Store}
  {call acting : Call} {row : Option FileMetadata}

theorem Call.Timely.of_not_names (h : call.names fileID = false) : call.Timely service fileID row := by
  unfold Call.Timely
  split
  · exact fun hmem => absurd hmem (of_decide_eq_false h)
  · exact fun hmem => absurd hmem (of_decide_eq_false h)
  · exact fun hid => absurd hid (of_decide_eq_false h)
  trivial

variable {file : FileMetadata}

theorem Call.Timely.finalized (h : call.Timely service fileID (some file))
    (hpending : file.status = .pending) (hlists : call.lists fileID = false) {new : FileMetadata}
    (hnew : new.status = .complete) : call.Timely service fileID (some new) := by
  have hnot : ∀ phase selectedAt, file.isOverdue service selectedAt phase = true → phase = .stale := by
    intro phase selectedAt hoverdue
    cases phase <;> grind [FileMetadata.isOverdue, FileMetadata.isExpired]
  unfold Call.Timely at h ⊢
  split
  · rename_i phase selectedAt files
    intro hmem
    obtain rfl := hnot phase selectedAt (h hmem file rfl)
    exact absurd hmem (of_decide_eq_false hlists)
  · rename_i phase selectedAt files
    intro hmem
    obtain rfl := hnot phase selectedAt (h hmem file rfl)
    exact absurd hmem (of_decide_eq_false hlists)
  · intro _ file' hfile
    cases hfile
    exact hnew
  · trivial

theorem Call.Timely.keep {m : Nat} (hcall : p.calls.get? m = some call)
    (heffect : FileEffect tick fileID p.shared acting row) (hok : acting.uncrossed service fileID p tick = true)
    (h : call.Timely service fileID (p.shared.files.get? fileID)) : call.Timely service fileID row := by
  have hmem := Table.get?_eq_some.1 hcall
  cases heffect with
  | same => exact h
  | created hid hfree =>
    grind [Call.uncrossed, of_not_names]
  | @finalized userID file hfile hpending hassembled hupdate =>
    rw [Call.uncrossed, Bool.or_eq_true, Bool.or_eq_true, decide_eq_true_eq] at hok
    have hlists := hok.resolve_left fun hleft => by
      grind [Option.isNone_iff_eq_none]
    rw [hfile] at h
    grind [h.finalized]
  | deleted =>
    unfold Call.Timely
    split
    · exact fun _ => nofun
    · exact fun _ => nofun
    · exact fun _ => nofun
    trivial

theorem of_mem_selected {p : FileMetadata → Bool} (hfile : s.files.get? fileID = some file)
    (h : fileID ∈ (s.files.rows.filter fun r => p r.2).map Prod.fst) : p file = true := by
  obtain ⟨⟨id, row⟩, hrow, rfl⟩ := List.mem_map.1 h
  obtain ⟨hrow, hselected⟩ := List.mem_filter.1 hrow
  rw [Table.get?_eq_some.2 hrow] at hfile
  cases hfile
  exact hselected

theorem mem_findExpiredFiles (hfile : s.files.get? fileID = some file) (hstamped : file.Stamped)
    (hnow : InRange tick.now) (hsecond : secondOf (parseTime file.createdAt) ≠ secondOf (tick.now - retention))
    (h : fileID ∈ findExpiredFiles s (rfc3339 (tick.now - retention))) : file.isExpired tick.now = true := by
  have hselected := of_mem_selected
    (p := fun f => f.createdAt < rfc3339 (tick.now - retention) && f.status = .complete) hfile h
  rw [Bool.and_eq_true, decide_eq_true_eq, decide_eq_true_eq] at hselected
  rw [FileMetadata.isExpired, Bool.and_eq_true, decide_eq_true_eq, decide_eq_true_eq]
  exact ⟨hselected.2, hstamped.created.lt_cutoff hnow hselected.1 hsecond⟩

theorem mem_findStalePendingFiles (hfile : s.files.get? fileID = some file)
    (hstamped : file.Stamped) (hnow : InRange tick.now)
    (hsecond : secondOf (parseTime file.updatedAt) ≠ secondOf (tick.now - effectivePendingUploadTTL service))
    (h : fileID ∈ findStalePendingFiles s (rfc3339 (tick.now - effectivePendingUploadTTL service))) :
    file.isStale service tick.now = true := by
  have hselected := of_mem_selected
    (p := fun f => f.updatedAt < rfc3339 (tick.now - effectivePendingUploadTTL service) && f.status = .pending) hfile h
  rw [Bool.and_eq_true, decide_eq_true_eq, decide_eq_true_eq] at hselected
  rw [FileMetadata.isStale, Bool.and_eq_true, decide_eq_true_eq, decide_eq_true_eq]
  exact ⟨hselected.2, hstamped.updated.lt_cutoff hnow hselected.1 hsecond⟩

theorem timely_next (hnow : InRange tick.now) (hok : call.uncrossed service fileID p tick = true)
    (hstamped : ∀ file ∈ p.shared.files.get? fileID, file.Stamped)
    (h : call.Timely service fileID ((next sha256 service tick p.shared call).1.files.get? fileID)) :
    (next sha256 service tick p.shared call).2.Timely service fileID
      ((next sha256 service tick p.shared call).1.files.get? fileID) := by
  obtain ⟨request, stage⟩ := call
  revert h
  cases request with
  | initializeUpload | saveChunk => exact fun _ => trivial
  | finalizeUpload id userID =>
    simp only [next, nextStage]
    fun_cases nextFinalize <;> intro h <;> try exact trivial
    · fun_cases hashChunk <;> exact trivial
    · grind [Table.get?_updateWhere, Call.Timely, finalizePendingUpload]
    · exact h
  | sweepExpiredFiles =>
    simp only [next, nextStage]
    fun_cases nextSweep <;> intro h <;> try exact trivial
    · intro hmem file hfile
      rw [Option.mem_def] at hfile
      rw [Call.uncrossed, hfile, Option.all_some, decide_eq_true_eq] at hok
      exact mem_findExpiredFiles hfile (hstamped file hfile) hnow hok hmem
    · exact h
    · exact fun hmem => h (List.mem_cons_of_mem _ hmem)
    · intro hmem file hfile
      rw [Option.mem_def] at hfile
      rw [Call.uncrossed, hfile, Option.all_some, decide_eq_true_eq] at hok
      exact mem_findStalePendingFiles hfile (hstamped file hfile) hnow hok hmem
    · exact h

theorem FileEffect.stamped (heffect : FileEffect tick fileID s call row) (hnow : InRange tick.now)
    (h : ∀ file ∈ s.files.get? fileID, file.Stamped) : ∀ file ∈ row, file.Stamped := by
  intro file hfile
  cases heffect with
  | same => exact h file hfile
  | created =>
    cases hfile
    exact ⟨⟨tick.now, hnow, rfl⟩, ⟨tick.now, hnow, rfl⟩⟩
  | finalized hold =>
    cases hfile
    exact ⟨(h _ hold).created, ⟨tick.now, hnow, rfl⟩⟩
  | deleted => cases hfile

/-- What holds in every state that a run reaches. -/
def Punctual (service : Service) (fileID : UUID) (p : System) : Prop :=
  (∀ file ∈ p.shared.files.get? fileID, file.Stamped) ∧
    ∀ n call, p.calls.get? n = some call → call.Timely service fileID (p.shared.files.get? fileID)

theorem Punctual.event {e : Event} (h : Punctual service fileID p) (hok : Uncrossed service fileID p e) :
    Punctual service fileID (step sha256 service p e) := by
  refine Pool.invariant_step (I := fun s : Store => ∀ file ∈ s.files.get? fileID, file.Stamped)
    (G := fun _ (s : Store) (call : Call) => call.Timely service fileID (s.files.get? fileID)) ?_ ?_ h.1 h.2
  · grind [Call.Timely, Call.begin]
  · intro n tick call he hcall htimely
    subst he
    obtain ⟨hnow, hok⟩ := hok
    have heffect := (next_effect sha256 service tick p.shared call).file fileID
    refine ⟨heffect.stamped hnow h.1, ?_, fun m other _ hother hothers => ?_⟩
    · exact timely_next hnow (hok call hcall) h.1 (htimely.keep hcall heffect (hok call hcall))
    · exact hothers.keep hother heffect (hok call hcall)

theorem overdue_mono {phase : Phase} {selectedAt now : Nat} (hle : selectedAt ≤ now)
    (h : file.isOverdue service selectedAt phase = true) :
    file.isStale service now = true ∨ file.isExpired now = true := by
  cases phase <;> grind [FileMetadata.isOverdue, FileMetadata.isExpired, FileMetadata.isStale]

theorem overdue_of_deletes (hok : call.uncrossed service fileID p tick = true)
    (h : call.Timely service fileID (some file)) (hdeletes : call.deletes fileID = true) :
    file.isStale service tick.now = true ∨ file.isExpired tick.now = true := by
  unfold Call.deletes at hdeletes
  split at hdeletes
  · rename_i phase selectedAt id files
    obtain rfl : id = fileID := of_decide_eq_true hdeletes
    have hle : selectedAt ≤ tick.now := by
      cases phase with
      | expired | stale => exact of_decide_eq_true hok
    exact overdue_mono hle (h List.mem_cons_self file rfl)
  · rename_i phase selectedAt id files
    obtain rfl : id = fileID := of_decide_eq_true hdeletes
    exact overdue_mono (of_decide_eq_true hok) (h List.mem_cons_self file rfl)
  · cases hdeletes

theorem Punctual.rightly {e : Event} (h : Punctual service fileID p) (hok : Uncrossed service fileID p e) :
    Rightly service fileID p e := by
  cases e with
  | start => trivial
  | advance n tick =>
    intro call hcall hdeletes file hfile
    rw [Option.mem_def] at hcall hfile
    have htimely := h.2 n call hcall
    rw [hfile] at htimely
    have hoverdue := overdue_of_deletes (hok.2 call hcall) htimely hdeletes
    refine ⟨hoverdue, fun hfinalized => ?_⟩
    obtain ⟨⟨m, other⟩, hother, hfinalized⟩ := List.any_eq_true.1 hfinalized
    have hcomplete : file.status = .complete := by
      have hknows := h.2 m other (Table.get?_eq_some.2 hother)
      change other.hasFinalized fileID = true at hfinalized
      unfold Call.hasFinalized at hfinalized
      split at hfinalized
      · exact hknows (of_decide_eq_true hfinalized) file hfile
      cases hfinalized
    grind [FileMetadata.isStale]

end Steps

/-- In every run in which a file is not finalized while it is on a list, and which keeps clear of the second of a cutoff:
what a pass deletes is overdue, and a file whose `FinalizeUpload` has returned success is deleted only once its retention
period is over. -/
theorem sweep_deletes_overdue (sha256 : List UInt8 → List UInt8) (service : Service) (fileID : UUID) (s : Store)
    (es : List Event) (hstamped : ∀ file ∈ s.files.get? fileID, file.Stamped)
    (hrun : Along (step sha256 service) (Uncrossed service fileID) (fresh s) es) :
    Along (step sha256 service) (Rightly service fileID) (fresh s) es := by
  have hstart : Punctual service fileID (fresh s) := by
    grind [fresh, Punctual]
  exact Along.imp_of_invariant (fun p e hp hok => hp.event hok) (fun p e hp hok => hp.rightly hok) hstart hrun

def sampleNow : Nat := 62135596800 * second

def sampleComplete : List Event :=
  sampleInitialize 0 sampleNow 7 1 ++ sampleSave 1 sampleNow 7 0 [1] ++
    sampleSteps 2 sampleNow 7 (.finalizeUpload (.ofByte 7) (.ofByte 1)) 5

def sampleSweep : List Event :=
  sampleComplete ++ sampleSteps 3 (sampleNow + 15 * 24 * hour) 7 .sweepExpiredFiles 3

theorem expired_file_deleted :
    (exec (step sampleSha256 ⟨10, 0⟩) (fresh emptyStore) sampleComplete).shared.files.rows.length = 1 ∧
    (exec (step sampleSha256 ⟨10, 0⟩) (fresh emptyStore) sampleSweep).shared.files.rows = [] ∧
    Along (step sampleSha256 ⟨10, 0⟩) (Rightly ⟨10, 0⟩ (.ofByte 7)) (fresh emptyStore) sampleSweep :=
  ⟨by decide +kernel, by decide +kernel,
    sweep_deletes_overdue sampleSha256 ⟨10, 0⟩ (.ofByte 7) emptyStore sampleSweep nofun (by decide +kernel)⟩

def sampleRace : List Event :=
  sampleInitialize 0 sampleNow 7 1 ++ sampleSave 1 sampleNow 7 0 [1] ++
    sampleSteps 2 (sampleNow + 25 * hour) 7 (.finalizeUpload (.ofByte 7) (.ofByte 1)) 4 ++
    sampleSteps 3 (sampleNow + 25 * hour) 7 .sweepExpiredFiles 2 ++
    [.advance 2 (sampleTick (sampleNow + 25 * hour) 7), .advance 3 (sampleTick (sampleNow + 25 * hour) 7),
      .advance 3 (sampleTick (sampleNow + 25 * hour) 7)]

theorem finalized_file_deleted :
    ¬ Along (step sampleSha256 ⟨10, 0⟩) (Rightly ⟨10, 0⟩ (.ofByte 7)) (fresh emptyStore) sampleRace ∧
    (exec (step sampleSha256 ⟨10, 0⟩) (fresh emptyStore) sampleRace).calls.get? 2 =
      some ⟨.finalizeUpload (.ofByte 7) (.ofByte 1), .succeeded (some (.ofByte 7))⟩ ∧
    (exec (step sampleSha256 ⟨10, 0⟩) (fresh emptyStore) sampleRace).shared.files.rows = [] := by
  decide +kernel

end GaiaCom.Storage
