/-
Who may read a file: `GrantFileAccessToIdentities`, `MarkFilePublic` and `FindAccessibleFileMetadata` of
sql_store_storage_gaiadrop.go.

A file has one row for each identity it was granted to. A permanent grant stays, but of two temporary ones the later call
wins, even if it ends earlier. As long as no grant ends before the one it replaces, a file is readable exactly for those
it was granted to (`file_access_as_granted`).
-/
import GaiaCom.Core.Uuid
import GaiaCom.Lib.Run
import GaiaCom.Lib.Table
import GaiaCom.Store.Time

namespace GaiaCom.Storage.Access

open Lib Core GaiaCom.Store

/-! ## Grants -/

/-- `t.Format(time.RFC3339)` in UTC, for years of four digits. -/
def rfc3339 (t : Nat) : String := String.ofList (fields (dateLayout 'T') (dateValues t) ++ ['Z'])

/-- The column expires_at; the zero time is no expiry. -/
def expiresAtValue (t : Nat) : String := if t = 0 then "" else rfc3339 t

/-- The columns of file_metadata that decide on access. -/
structure File where
  userID : UUID
  publicAccess : Bool
  deriving DecidableEq

/-- A grant that was made: the file, the identity and the expiry. -/
structure Grant where
  fileID : UUID
  identityID : UUID
  expiresAt : Nat
  deriving DecidableEq

/-- The files, the users of the identities and the table file_access_grants under its key (file, user, identity), with
the grants that were made. -/
structure Store where
  files : Table UUID File
  identities : Table UUID UUID
  grants : Table (UUID × UUID × UUID) String
  made : List Grant

/-- The statement of `GrantFileAccessToIdentities` for one identity. -/
def grantOne (s : Store) (g : Grant) : Store :=
  match s.identities.get? g.identityID with
  | none => s
  | some userID =>
    { s with
      grants := s.grants.upsert (g.fileID, userID, g.identityID) (expiresAtValue g.expiresAt) fun old new =>
        if old = "" then "" else new
      made := g :: s.made }

/-- A call; `fails` if a statement of it does, which undoes the whole call. -/
inductive Operation where
  | grantFileAccessToIdentities (fileID ownerUserID : UUID) (identityIDs : List UUID) (expiresAt : Nat) (fails : Bool)
  | markFilePublic (fileID ownerUserID : UUID) (fails : Bool)

def step (s : Store) : Operation → Store
  | .grantFileAccessToIdentities fileID ownerUserID identityIDs expiresAt fails =>
    if fails || (s.files.get? fileID).map File.userID ≠ some ownerUserID then s
    else ((identityIDs.filter (· ≠ .nil)).map fun id => ⟨fileID, id, expiresAt⟩).foldl grantOne s
  | .markFilePublic fileID ownerUserID fails =>
    if fails then s
    else { s with files := s.files.updateWhere (fun id f => id = fileID && f.userID = ownerUserID) fun f =>
            { f with publicAccess := true } }

/-- `FindAccessibleFileMetadata` finds the file. -/
def findAccessibleFileMetadata (s : Store) (now : Nat) (fileID userID : UUID) : Bool :=
  (s.files.get? fileID).any fun f => f.userID = userID || f.publicAccess || s.grants.rows.any fun r =>
    r.1.1 = fileID && r.1.2.1 = userID && (r.2 = "" || rfc3339 now < r.2)

/-- The user owns the file, it is public, or a grant for an identity of the user has not ended, in whole seconds. -/
def MayRead (s : Store) (now : Nat) (fileID userID : UUID) : Prop :=
  ∃ f, s.files.get? fileID = some f ∧ (f.userID = userID ∨ f.publicAccess = true ∨
    ∃ g ∈ s.made, g.fileID = fileID ∧ s.identities.get? g.identityID = some userID ∧
      (g.expiresAt = 0 ∨ secondOf now < secondOf g.expiresAt))

/-! ## The condition -/

/-- The grant is permanent or ends before the year 10000, and not before one that it replaces. -/
def Covers (s : Store) (g : Grant) : Prop :=
  g.expiresAt = 0 ∨ Lib.Calendar.year (dayOf g.expiresAt) ≤ 9999 ∧
    ∀ userID ∈ s.identities.get? g.identityID, ∀ old ∈ s.grants.get? (g.fileID, userID, g.identityID),
      old ≤ expiresAtValue g.expiresAt

instance (s : Store) (g : Grant) : Decidable (Covers s g) := inferInstanceAs (Decidable (_ ∨ _))

def Extends (s : Store) : Operation → Prop
  | .grantFileAccessToIdentities fileID _ identityIDs expiresAt _ => ∀ id ∈ identityIDs, Covers s ⟨fileID, id, expiresAt⟩
  | .markFilePublic _ _ _ => True

instance (s : Store) : DecidablePred (Extends s)
  | .grantFileAccessToIdentities fileID _ identityIDs expiresAt _ =>
    inferInstanceAs (Decidable (∀ id ∈ identityIDs, Covers s ⟨fileID, id, expiresAt⟩))
  | .markFilePublic _ _ _ => .isTrue trivial

/-! ## Texts -/

theorem rfc3339_lt_iff {a b : Nat} (ha : Lib.Calendar.year (dayOf a) ≤ 9999) (hb : Lib.Calendar.year (dayOf b) ≤ 9999) :
    rfc3339 a < rfc3339 b ↔ secondOf a < secondOf b := by
  have hfits := dateValues_fits 'T' ha
  have hfits' := dateValues_fits 'T' hb
  rw [rfc3339, rfc3339, String.lt_iff_toList_lt, String.toList_ofList, String.toList_ofList,
    append_lt_append_iff (length_fields hfits hfits'), fields_lt_iff hfits hfits']
  constructor
  · rintro (hlt | ⟨-, hlt⟩)
    · by_contra hge
      rcases (not_lt.1 hge).lt_or_eq with hlt' | heq
      · exact absurd (dateValues_lt hlt') (not_lt_of_gt hlt)
      · rw [dateValues_congr heq] at hlt
        exact lt_irrefl _ hlt
    · exact absurd hlt (lt_irrefl _)
  · exact fun hlt => .inl (dateValues_lt hlt)

theorem expiresAtValue_eq_empty {t : Nat} : expiresAtValue t = "" ↔ t = 0 := by
  unfold expiresAtValue
  split
  · simp [*]
  rename_i ht
  refine iff_of_false (fun h => ?_) ht
  have hlist := congrArg String.toList h
  rw [rfc3339, String.toList_ofList] at hlist
  simp at hlist

/-! ## Rows and grants -/

/-- Every row is that of a grant that was made, and every grant that was made is covered by a row. -/
structure Inv (s : Store) : Prop where
  row : ∀ f u id x, s.grants.get? (f, u, id) = some x → s.identities.get? id = some u ∧
    ∃ t, ⟨f, id, t⟩ ∈ s.made ∧ x = expiresAtValue t
  covered : ∀ g ∈ s.made, ∀ u, s.identities.get? g.identityID = some u →
    ∃ x, s.grants.get? (g.fileID, u, g.identityID) = some x ∧ (x = "" ∨ g.expiresAt ≠ 0 ∧ expiresAtValue g.expiresAt ≤ x)
  range : ∀ g ∈ s.made, Lib.Calendar.year (dayOf g.expiresAt) ≤ 9999

section Steps

variable {s : Store} {g : Grant}

theorem get?_grantOne {userID : UUID} (hid : s.identities.get? g.identityID = some userID) (key : UUID × UUID × UUID) :
    (grantOne s g).grants.get? key = if key = (g.fileID, userID, g.identityID) then
      some (if s.grants.get? key = some "" then "" else expiresAtValue g.expiresAt) else s.grants.get? key := by
  simp only [grantOne, hid, Table.get?_upsert]
  split
  · rename_i hkey
    subst hkey
    cases s.grants.get? (g.fileID, userID, g.identityID) with
    | none => rfl
    | some old => by_cases hold : old = "" <;> simp [hold]
  · rfl

theorem inv_grantOne (h : Inv s) (hcovers : Covers s g) : Inv (grantOne s g) := by
  cases hid : s.identities.get? g.identityID with
  | none => simpa [grantOne, hid] using h
  | some userID =>
    have hget := get?_grantOne (s := s) (g := g) hid
    have hsame : (grantOne s g).identities = s.identities := by simp [grantOne, hid]
    have hmade : (grantOne s g).made = g :: s.made := by simp [grantOne, hid]
    constructor
    · intro f u id x hx
      rw [hsame, hmade]
      rw [hget] at hx
      split at hx
      · rename_i hkey
        cases hkey
        refine ⟨hid, ?_⟩
        split at hx
        · rename_i hold
          obtain ⟨-, t, ht, htext⟩ := h.row _ _ _ _ hold
          exact ⟨t, List.mem_cons_of_mem _ ht, (Option.some.inj hx).symm.trans htext⟩
        · exact ⟨g.expiresAt, List.mem_cons_self, (Option.some.inj hx).symm⟩
      · obtain ⟨hu, t, ht, htext⟩ := h.row f u id x hx
        exact ⟨hu, t, List.mem_cons_of_mem _ ht, htext⟩
    · intro g' hg' u hu
      rw [hsame] at hu
      rw [hmade, List.mem_cons] at hg'
      rw [hget]
      split
      · rename_i hkey
        obtain ⟨hfile, rfl, hsameid⟩ : g'.fileID = g.fileID ∧ u = userID ∧ g'.identityID = g.identityID := by
          simpa using hkey
        refine ⟨_, rfl, ?_⟩
        split
        · exact .inl rfl
        rename_i hold
        rcases hg' with rfl | hg'
        · by_cases hzero : g'.expiresAt = 0
          · exact .inl (expiresAtValue_eq_empty.2 hzero)
          · exact .inr ⟨hzero, le_rfl⟩
        · -- an earlier grant ends no later than the new one
          obtain ⟨x, hx, hcase⟩ := h.covered g' hg' u hu
          rw [hfile, hsameid] at hx
          rcases hcase with rfl | ⟨hne, hle⟩
          · exact absurd (by rw [hfile, hsameid]; exact hx) hold
          · rcases hcovers with hzero | ⟨-, hlater⟩
            · exact .inl (expiresAtValue_eq_empty.2 hzero)
            · exact .inr ⟨hne, hle.trans (hlater u hid x hx)⟩
      · rename_i hkey
        rcases hg' with rfl | hg'
        · rw [hid, Option.some.injEq] at hu
          exact absurd (by rw [hu]) hkey
        · exact h.covered g' hg' u hu
    · intro g' hg'
      rw [hmade, List.mem_cons] at hg'
      rcases hg' with rfl | hg'
      · rcases hcovers with hzero | hrange
        · rw [hzero]
          decide
        · exact hrange.1
      · exact h.range g' hg'

/-- What a grant has written is covered by another one of the same call. -/
theorem covers_grantOne {g' : Grant} (ht : g'.expiresAt = g.expiresAt) (hcovers : Covers s g') :
    Covers (grantOne s g) g' := by
  rcases hcovers with hzero | ⟨hrange, hlater⟩
  · exact .inl hzero
  · refine .inr ⟨hrange, fun userID huser old hold => ?_⟩
    cases hid : s.identities.get? g.identityID with
    | none =>
      simp only [grantOne, hid] at huser hold
      exact hlater userID huser old hold
    | some user =>
      have hsame : (grantOne s g).identities = s.identities := by simp [grantOne, hid]
      rw [hsame] at huser
      rw [Option.mem_def, get?_grantOne hid] at hold
      split at hold
      · obtain rfl := Option.some.inj hold
        split
        · rename_i hempty
          exact hlater userID huser "" hempty
        · rw [ht]
      · exact hlater userID huser old hold

theorem inv_foldl {gs : List Grant} {t : Nat} (hgs : ∀ g ∈ gs, g.expiresAt = t) (h : Inv s)
    (hcovers : ∀ g ∈ gs, Covers s g) : Inv (gs.foldl grantOne s) := by
  induction gs generalizing s with
  | nil => exact h
  | cons g gs ih =>
    refine ih (fun g' hg' => hgs g' (List.mem_cons_of_mem _ hg')) (inv_grantOne h (hcovers g List.mem_cons_self)) ?_
    intro g' hg'
    exact covers_grantOne ((hgs g' (List.mem_cons_of_mem _ hg')).trans (hgs g List.mem_cons_self).symm)
      (hcovers g' (List.mem_cons_of_mem _ hg'))

theorem inv_step {op : Operation} (h : Inv s) (hok : Extends s op) : Inv (step s op) := by
  cases op with
  | grantFileAccessToIdentities fileID ownerUserID identityIDs expiresAt fails =>
    simp only [step]
    split
    · exact h
    refine inv_foldl (t := expiresAt) ?_ h ?_
    · intro g hg
      obtain ⟨id, -, rfl⟩ := List.mem_map.1 hg
      rfl
    · intro g hg
      obtain ⟨id, hid, rfl⟩ := List.mem_map.1 hg
      exact hok id (List.mem_filter.1 hid).1
  | markFilePublic fileID ownerUserID fails =>
    simp only [step]
    split
    · exact h
    exact ⟨h.row, h.covered, h.range⟩

end Steps

/-- In any sequence of calls, if no grant ends before one that it replaces, or after the year 9999, then a file is found
for a user at a time up to the year 9999 exactly if the user may read it. -/
theorem file_access_as_granted (files : Table UUID File) (identities : Table UUID UUID) (ops : List Operation)
    (hrun : Along step Extends ⟨files, identities, Table.empty, []⟩ ops) (now : Nat)
    (hnow : Lib.Calendar.year (dayOf now) ≤ 9999) (fileID userID : UUID) :
    findAccessibleFileMetadata (exec step ⟨files, identities, Table.empty, []⟩ ops) now fileID userID = true ↔
      MayRead (exec step ⟨files, identities, Table.empty, []⟩ ops) now fileID userID := by
  have hinit : Inv ⟨files, identities, Table.empty, []⟩ :=
    ⟨fun f u id x hx => (by cases hx), fun g hg => (by cases hg), fun g hg => (by cases hg)⟩
  have hinv := Along.invariant (P := Inv) (fun _ _ h hok => inv_step h hok) hinit hrun
  generalize exec step ⟨files, identities, Table.empty, []⟩ ops = s at hinv ⊢
  have hrows : s.grants.rows.any (fun r => r.1.1 = fileID && r.1.2.1 = userID && (r.2 = "" || rfc3339 now < r.2)) = true ↔
      ∃ g ∈ s.made, g.fileID = fileID ∧ s.identities.get? g.identityID = some userID ∧
        (g.expiresAt = 0 ∨ secondOf now < secondOf g.expiresAt) := by
    simp only [List.any_eq_true, Bool.and_eq_true, Bool.or_eq_true, decide_eq_true_eq, Prod.exists]
    constructor
    · rintro ⟨f, u, id, x, hmem, ⟨rfl, rfl⟩, hlive⟩
      obtain ⟨huser, t, ht, rfl⟩ := hinv.row f u id x (Table.get?_eq_some.2 hmem)
      refine ⟨_, ht, rfl, huser, ?_⟩
      by_cases hzero : t = 0
      · exact .inl hzero
      · have hlt := hlive.resolve_left fun hempty => hzero (expiresAtValue_eq_empty.1 hempty)
        rw [expiresAtValue, if_neg hzero, rfc3339_lt_iff hnow (hinv.range _ ht)] at hlt
        exact .inr hlt
    · rintro ⟨g, hg, rfl, huser, hlive⟩
      obtain ⟨x, hx, hcase⟩ := hinv.covered g hg userID huser
      refine ⟨g.fileID, userID, g.identityID, x, Table.get?_eq_some.1 hx, ⟨rfl, rfl⟩, ?_⟩
      rcases hcase with rfl | ⟨hne, hle⟩
      · exact .inl rfl
      · have hlt := (rfc3339_lt_iff hnow (hinv.range g hg)).2 (hlive.resolve_left hne)
        rw [expiresAtValue, if_neg hne] at hle
        exact .inr (lt_of_lt_of_le hlt hle)
  unfold findAccessibleFileMetadata MayRead
  cases s.files.get? fileID with
  | none => simp
  | some f =>
    simp only [Option.any_some, Bool.or_eq_true, decide_eq_true_eq, hrows, Option.some.injEq, exists_eq_left', or_assoc]

/-- A file of user 1, and an identity of user 2. -/
def sampleStore : Store :=
  ⟨⟨[(.ofByte 9, ⟨.ofByte 1, false⟩)], by decide⟩, ⟨[(.ofByte 5, .ofByte 2)], by decide⟩, Table.empty, []⟩

/-- 2026-07-17T12:00:00Z and some hours later. -/
def sampleTime (hours : Nat) : Nat := 63919886400000000000 + hours * hour

def sampleGrant (hours : Nat) : Operation :=
  .grantFileAccessToIdentities (.ofByte 9) (.ofByte 1) [.ofByte 5] (sampleTime hours) false

theorem longer_grant_kept :
    findAccessibleFileMetadata (exec step sampleStore [sampleGrant 1, sampleGrant 24]) (sampleTime 2) (.ofByte 9) (.ofByte 2)
        = true ↔ MayRead (exec step sampleStore [sampleGrant 1, sampleGrant 24]) (sampleTime 2) (.ofByte 9) (.ofByte 2) :=
  file_access_as_granted _ _ [sampleGrant 1, sampleGrant 24] (by decide +kernel) _ (by decide +kernel) _ _

/-- Access is granted for a day, and then once more for an hour: after two hours there is none. -/
theorem second_grant_shortens :
    findAccessibleFileMetadata (exec step sampleStore [sampleGrant 24, sampleGrant 1]) (sampleTime 2) (.ofByte 9) (.ofByte 2)
        = false ∧ MayRead (exec step sampleStore [sampleGrant 24, sampleGrant 1]) (sampleTime 2) (.ofByte 9) (.ofByte 2) := by
  refine ⟨by decide +kernel, ⟨.ofByte 1, false⟩, by decide +kernel, .inr (.inr ⟨⟨.ofByte 9, .ofByte 5, sampleTime 24⟩, ?_⟩)⟩
  decide +kernel

end GaiaCom.Storage.Access
