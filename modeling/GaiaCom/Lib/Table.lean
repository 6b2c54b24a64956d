/-
Keyed tables: finite sets of rows under a primary key, kept in insertion order. A SQL table with
a primary key and a hash map are both of this kind. `get?` after each operation is the whole
interface: every later proof rewrites with the `get?` lemmas and never looks at the rows.
-/
import Mathlib.Algebra.GroupWithZero.Nat
import Mathlib.Algebra.Order.BigOperators.Group.List
import Mathlib.Algebra.Order.Group.Nat
import Mathlib.Data.List.Nodup
import Mathlib.Data.List.Perm.Subperm
import Mathlib.Tactic.Basic

namespace Lib

/-- Rows under a primary key, in insertion order; no key occurs twice. -/
structure Table (κ ρ : Type) where
  rows : List (κ × ρ)
  nodup : (rows.map Prod.fst).Nodup

namespace Table

variable {κ ρ : Type} [DecidableEq κ]

def empty : Table κ ρ := ⟨[], List.nodup_nil⟩

/-- The row stored under `k`. -/
def get? (t : Table κ ρ) (k : κ) : Option ρ := (t.rows.find? fun r => r.1 = k).map Prod.snd

def size (t : Table κ ρ) : Nat := t.rows.length

/-- The number of rows a `WHERE` condition selects. -/
def countWhere (t : Table κ ρ) (p : κ → ρ → Bool) : Nat := t.rows.countP fun r => p r.1 r.2

def sumOver (t : Table κ ρ) (w : κ → ρ → Nat) : Nat := (t.rows.map fun r => w r.1 r.2).sum

/-- `DELETE … WHERE p`. -/
def deleteWhere (t : Table κ ρ) (p : κ → ρ → Bool) : Table κ ρ :=
  ⟨t.rows.filter fun r => !p r.1 r.2, (List.filter_sublist.map _).nodup t.nodup⟩

/-- `UPDATE … SET f WHERE p`; the key of a row never changes. -/
def updateWhere (t : Table κ ρ) (p : κ → ρ → Bool) (f : ρ → ρ) : Table κ ρ :=
  ⟨t.rows.map fun r => (r.1, if p r.1 r.2 then f r.2 else r.2), by
    rw [List.map_map]; exact t.nodup⟩

def insertOrIgnore (t : Table κ ρ) (k : κ) (r : ρ) : Table κ ρ :=
  if h : t.rows.any (fun x => x.1 = k) then t
  else ⟨t.rows ++ [(k, r)], by
    grind [t.nodup]⟩

/-- `m[k] = r`: the row under `k` is `r`, whether or not there was one. -/
def put (t : Table κ ρ) (k : κ) (r : ρ) : Table κ ρ :=
  (t.updateWhere (fun k' _ => k' = k) fun _ => r).insertOrIgnore k r

/-- `INSERT … ON CONFLICT(key) DO UPDATE SET merge`: a row that is there is merged with the new one. -/
def upsert (t : Table κ ρ) (k : κ) (new : ρ) (merge : ρ → ρ → ρ) : Table κ ρ :=
  (t.updateWhere (fun k' _ => k' = k) fun old => merge old new).insertOrIgnore k new

def mapRows {κ' ρ' : Type} (t : Table κ ρ) (f : κ → κ') (hf : Function.Injective f) (g : ρ → ρ') : Table κ' ρ' :=
  ⟨t.rows.map fun r => (f r.1, g r.2), by
    have hkeys : (t.rows.map fun r => (f r.1, g r.2)).map Prod.fst = (t.rows.map Prod.fst).map f := by simp
    rw [hkeys]
    exact t.nodup.map hf⟩

/-- The least element of a list; of two elements neither of which comes first, the earlier one. -/
def least {α : Type} (before : α → α → Bool) : List α → Option α
  | [] => none
  | x :: xs =>
    match least before xs with
    | none => some x
    | some y => if before y x then some y else some x

/-- `SELECT key … WHERE p ORDER BY … LIMIT 1`. -/
def first? (t : Table κ ρ) (p : κ → ρ → Bool) (before : κ × ρ → κ × ρ → Bool) : Option κ :=
  (least before (t.rows.filter fun r => p r.1 r.2)).map Prod.fst

/-! ## Reading after writing -/

variable {k : κ} {r : ρ} {t : Table κ ρ}

@[grind =]
theorem get?_eq_some : t.get? k = some r ↔ (k, r) ∈ t.rows := by
  unfold get?
  rw [Option.map_eq_some_iff]
  constructor
  · grind
  · intro hm
    rcases hf : t.rows.find? (fun r => r.1 = k) with _ | r'
    · grind
    grind [List.inj_on_of_nodup_map, t.nodup]

theorem get?_eq_none : t.get? k = none ↔ ∀ r, (k, r) ∉ t.rows := by
  constructor
  · intro h r hm; rw [get?_eq_some.2 hm] at h; cases h
  · intro h
    cases hg : t.get? k with
    | none => rfl
    | some r => exact absurd (get?_eq_some.1 hg) (h r)

@[simp, grind =] theorem get?_empty (k : κ) : (empty : Table κ ρ).get? k = none := rfl

@[simp] theorem get?_deleteWhere (t : Table κ ρ) (p : κ → ρ → Bool) (k : κ) :
    (t.deleteWhere p).get? k = (t.get? k).filter fun r => !p k r := by
  ext r
  rw [get?_eq_some, Option.filter_eq_some_iff, get?_eq_some]
  simp [deleteWhere]

@[simp] theorem get?_updateWhere (t : Table κ ρ) (p : κ → ρ → Bool) (f : ρ → ρ) (k : κ) :
    (t.updateWhere p f).get? k = (t.get? k).map fun r => if p k r then f r else r := by
  ext r
  rw [get?_eq_some, Option.map_eq_some_iff]
  simp only [updateWhere, List.mem_map, Prod.mk.injEq, Prod.exists]
  constructor
  · rintro ⟨k', r', hm, rfl, rfl⟩; exact ⟨r', get?_eq_some.2 hm, rfl⟩
  · rintro ⟨r', hg, rfl⟩; exact ⟨k, r', get?_eq_some.1 hg, rfl, rfl⟩

theorem any_key_iff (t : Table κ ρ) (k : κ) : t.rows.any (fun x => x.1 = k) = true ↔ (t.get? k).isSome := by
  rw [Option.isSome_iff_exists]
  simp only [List.any_eq_true, decide_eq_true_eq, Prod.exists, get?_eq_some]
  grind

@[simp] theorem get?_insertOrIgnore (t : Table κ ρ) (k : κ) (r : ρ) (k' : κ) :
    (t.insertOrIgnore k r).get? k' = if k' = k then some ((t.get? k).getD r) else t.get? k' := by
  unfold insertOrIgnore
  split
  · rename_i h
    rw [any_key_iff, Option.isSome_iff_exists] at h
    obtain ⟨r', hr⟩ := h
    split
    · rename_i hk; rw [hk, hr]; rfl
    rfl
  · rename_i h
    rw [any_key_iff, Bool.not_eq_true, Option.isSome_eq_false_iff, Option.isNone_iff_eq_none] at h
    ext x
    rw [get?_eq_some, List.mem_append, ← get?_eq_some, List.mem_singleton, Prod.mk.injEq]
    split
    · rename_i hk; subst hk; simp [h, eq_comm]
    rename_i hk; simp [hk]

theorem get?_insertOrIgnore_free (h : t.get? k = none) (r : ρ) (k' : κ) :
    (t.insertOrIgnore k r).get? k' = if k' = k then some r else t.get? k' := by
  rw [get?_insertOrIgnore, h, Option.getD_none]

@[simp, grind =] theorem get?_put (t : Table κ ρ) (k : κ) (r : ρ) (k' : κ) :
    (t.put k r).get? k' = if k' = k then some r else t.get? k' := by
  unfold put
  rw [get?_insertOrIgnore]
  split
  · rw [get?_updateWhere]; cases t.get? k <;> simp
  rename_i hk; rw [get?_updateWhere]; simp [hk]

@[simp] theorem get?_upsert (t : Table κ ρ) (k : κ) (new : ρ) (merge : ρ → ρ → ρ) (k' : κ) :
    (t.upsert k new merge).get? k' =
      if k' = k then some (((t.get? k).map fun old => merge old new).getD new) else t.get? k' := by
  unfold upsert
  rw [get?_insertOrIgnore]
  split
  · rw [get?_updateWhere]; simp
  rename_i hk; rw [get?_updateWhere]; simp [hk]

@[simp] theorem get?_mapRows {κ' ρ' : Type} [DecidableEq κ'] (t : Table κ ρ) {f : κ → κ'} (hf : Function.Injective f)
    (g : ρ → ρ') (k : κ) : (t.mapRows f hf g).get? (f k) = (t.get? k).map g := by
  ext r
  grind [Option.map_eq_some_iff, mapRows]

/-! ## What changes -/

variable {k' : κ}

theorem insertOrIgnore_changed (h : (t.insertOrIgnore k r).get? k' ≠ t.get? k') :
    k' = k ∧ t.get? k = none ∧ (t.insertOrIgnore k r).get? k' = some r := by
  rw [get?_insertOrIgnore] at h ⊢
  split at h
  · rename_i hk
    subst hk
    cases ht : t.get? k' with
    | none => simp
    | some x => rw [ht] at h; exact absurd rfl h
  · exact absurd rfl h

theorem get?_of_insertOrIgnore {x : ρ} (h : (t.insertOrIgnore k r).get? k' = some x) :
    t.get? k' = some x ∨ k' = k ∧ x = r := by
  by_cases hsame : (t.insertOrIgnore k r).get? k' = t.get? k'
  · exact .inl (hsame ▸ h)
  · obtain ⟨hk, -, hnew⟩ := insertOrIgnore_changed hsame
    exact .inr ⟨hk, Option.some.inj (h.symm.trans hnew)⟩

variable {p : κ → ρ → Bool}

theorem get?_of_deleteWhere (h : (t.deleteWhere p).get? k = some r) : t.get? k = some r := by
  rw [get?_deleteWhere, Option.filter_eq_some_iff] at h
  exact h.1

theorem deleteWhere_changed (h : (t.deleteWhere p).get? k ≠ t.get? k) :
    (t.deleteWhere p).get? k = none ∧ ∃ r, t.get? k = some r ∧ p k r = true := by
  rw [get?_deleteWhere] at h ⊢
  cases ht : t.get? k with
  | none => rw [ht] at h; exact absurd rfl h
  | some r =>
    grind

theorem get?_deleteWhere_of_forall (h : ∀ r, p k r = false) : (t.deleteWhere p).get? k = t.get? k := by
  grind [deleteWhere_changed]

theorem deleteWhere_eq_self (h : ∀ k r, t.get? k = some r → p k r = false) : t.deleteWhere p = t := by
  have hrows : t.rows.filter (fun r => !p r.1 r.2) = t.rows := by
    grind [List.filter_eq_self]
  unfold deleteWhere
  simp only [hrows]

theorem kept_deleteWhere (h : ∀ k r, t.get? k = some r → (t.deleteWhere p).get? k = some r) :
    ∀ k r, t.get? k = some r → p k r = false := by
  intro k r hr
  have hk := h k r hr
  rw [get?_deleteWhere, Option.filter_eq_some_iff] at hk
  simpa using hk.2

/-- The rows that differ were created as `created` allows or deleted as `deleted` allows; no row was
changed in place. -/
def CreatedOrDeleted (t t' : Table κ ρ) (created deleted : κ → ρ → Prop) : Prop :=
  ∀ k, t'.get? k ≠ t.get? k →
    (t.get? k = none ∧ ∃ r, t'.get? k = some r ∧ created k r) ∨ (t'.get? k = none ∧ ∃ r, t.get? k = some r ∧ deleted k r)

theorem CreatedOrDeleted.refl (t : Table κ ρ) (created deleted : κ → ρ → Prop) : CreatedOrDeleted t t created deleted :=
  fun _ h => absurd rfl h

theorem createdOrDeleted_insertOrIgnore {created deleted : κ → ρ → Prop}
    (h : created k r) : CreatedOrDeleted t (t.insertOrIgnore k r) created deleted := by
  intro k' hk'
  obtain ⟨rfl, hn, hr⟩ := insertOrIgnore_changed hk'
  exact .inl ⟨hn, r, hr, h⟩

theorem createdOrDeleted_deleteWhere {created deleted : κ → ρ → Prop}
    (h : ∀ k r, t.get? k = some r → p k r = true → deleted k r) :
    CreatedOrDeleted t (t.deleteWhere p) created deleted := by
  grind [deleteWhere_changed, CreatedOrDeleted]

/-- Every row stays, with what `f` reads of it. -/
def Keeps {α : Type} (f : ρ → α) (t t' : Table κ ρ) : Prop := ∀ k y, (t.get? k).map f = some y → (t'.get? k).map f = some y

section Keeps

variable {α : Type} {f : ρ → α} {t' : Table κ ρ}

theorem Keeps.insertOrIgnore (h : Keeps f t t') : Keeps f t (t'.insertOrIgnore k r) := by
  intro k' y hy
  replace hy := h k' y hy
  rw [get?_insertOrIgnore]
  split_ifs with hk
  · subst hk
    cases ht : t'.get? k' <;> simp_all
  · exact hy

theorem Keeps.updateWhere {g : ρ → ρ} (h : Keeps f t t') (hg : ∀ r, f (g r) = f r) : Keeps f t (t'.updateWhere p g) := by
  intro k' y hy
  replace hy := h k' y hy
  rw [get?_updateWhere]
  cases ht : t'.get? k' with
  | none => simp [ht] at hy
  | some r => cases hp : p k' r <;> simp_all

end Keeps

/-- The rows that differ were `mine` before, if they were there, and are `mine` now, if they are there. -/
def OnlyMine (t t' : Table κ ρ) (mine : κ → ρ → Prop) : Prop :=
  ∀ k, t'.get? k ≠ t.get? k → (∀ r, t.get? k = some r → mine k r) ∧ ∀ r, t'.get? k = some r → mine k r

theorem OnlyMine.refl (t : Table κ ρ) (mine : κ → ρ → Prop) : OnlyMine t t mine := fun _ h => absurd rfl h

theorem OnlyMine.trans {t' t'' : Table κ ρ} {mine : κ → ρ → Prop} (h : OnlyMine t t' mine)
    (h' : OnlyMine t' t'' mine) : OnlyMine t t'' mine := by
  intro k hk
  by_cases hfirst : t'.get? k = t.get? k
  · rw [← hfirst] at hk ⊢
    exact h' k hk
  · by_cases hsecond : t''.get? k = t'.get? k
    · rw [hsecond]
      exact h k hfirst
    · exact ⟨(h k hfirst).1, (h' k hsecond).2⟩

/-- An upsert touches the row of its key; it is `mine` before and after if the row there is and stays so. -/
theorem onlyMine_upsert {new : ρ} {merge : ρ → ρ → ρ} {mine : κ → ρ → Prop}
    (hnew : mine k new) (hmerge : ∀ old, mine k old → mine k (merge old new))
    (hold : ∀ old, t.get? k = some old → mine k old) : OnlyMine t (t.upsert k new merge) mine := by
  intro k' hk'
  rw [get?_upsert] at hk' ⊢
  split at hk'
  · rename_i hk
    subst hk
    refine ⟨hold, fun r hr => ?_⟩
    rw [if_pos rfl, Option.some.injEq] at hr
    cases ht : t.get? k' with
    | none => rw [← hr, ht]; exact hnew
    | some old => grind
  · exact absurd rfl hk'

theorem onlyMine_updateWhere {f : ρ → ρ} {mine : κ → ρ → Prop}
    (h : ∀ k r, t.get? k = some r → p k r = true → mine k r ∧ mine k (f r)) : OnlyMine t (t.updateWhere p f) mine := by
  intro k hk
  rw [get?_updateWhere] at hk ⊢
  cases ht : t.get? k with
  | none => rw [ht] at hk; exact absurd rfl hk
  | some r =>
    rw [ht] at hk
    by_cases hp : p k r = true
    · obtain ⟨hr, hf⟩ := h k r ht hp
      simp only [Option.some.injEq, Option.map_some, hp, if_true, forall_eq']
      exact ⟨hr, hf⟩
    · simp [hp] at hk

theorem onlyMine_insertOrIgnore {mine : κ → ρ → Prop} (h : mine k r) : OnlyMine t (t.insertOrIgnore k r) mine := by
  intro k' hk'
  obtain ⟨rfl, hn, hr⟩ := insertOrIgnore_changed hk'
  simp only [hn, hr, reduceCtorEq, false_implies, implies_true, true_and, Option.some.injEq, forall_eq']
  exact h

theorem onlyMine_deleteWhere {mine : κ → ρ → Prop}
    (h : ∀ k r, t.get? k = some r → p k r = true → mine k r) : OnlyMine t (t.deleteWhere p) mine := by
  intro k hk
  obtain ⟨hn, r, hr, hp⟩ := deleteWhere_changed hk
  simp only [hn, hr, Option.some.injEq, forall_eq', reduceCtorEq, false_implies, implies_true, and_true]
  exact h k r hr hp

theorem updateWhere_eq_self {f : ρ → ρ}
    (h : ∀ k r, t.get? k = some r → p k r = true → f r = r) : t.updateWhere p f = t := by
  have hrows : t.rows.map (fun r => (r.1, if p r.1 r.2 then f r.2 else r.2)) = t.rows := by
    refine (List.map_congr_left ?_).trans (List.map_id _)
    grind
  unfold updateWhere
  simp only [hrows]

variable {old : ρ}

theorem upsert_eq_self {new : ρ} {merge : ρ → ρ → ρ} (hold : t.get? k = some old)
    (h : (t.upsert k new merge).get? k = some old) : t.upsert k new merge = t := by
  rw [get?_upsert, if_pos rfl, hold, Option.map_some, Option.getD_some, Option.some.injEq] at h
  have hupdate : (t.updateWhere (fun k' _ => k' = k) fun old => merge old new) = t := by
    refine updateWhere_eq_self fun k' r hr hk => ?_
    obtain rfl := of_decide_eq_true hk
    obtain rfl := Option.some.inj (hold.symm.trans hr)
    exact h
  have htaken : t.rows.any (fun x => x.1 = k) = true := by rw [any_key_iff, hold]; rfl
  unfold upsert
  rw [hupdate, insertOrIgnore, dif_pos htaken]

/-! ## Selecting -/

theorem least_mem {α : Type} {before : α → α → Bool} : ∀ {l : List α} {x : α}, least before l = some x → x ∈ l
  | [], _, h => by simp [least] at h
  | a :: l, x, h => by
    unfold least at h
    split at h
    · simp_all
    rename_i y hy
    split at h
    · cases h; exact List.mem_cons_of_mem _ (least_mem hy)
    cases h; exact List.mem_cons_self

theorem least_eq_none {α : Type} {before : α → α → Bool} : ∀ {l : List α}, least before l = none → l = []
  | [], _ => rfl
  | a :: l, h => by
    grind [least]

theorem least_eq_getLast? {α : Type} {before : α → α → Bool} {l : List α} (h : l.Pairwise fun a b => before b a = true) :
    least before l = l.getLast? := by
  induction l with
  | nil => rfl
  | cons a l ih =>
    rw [List.pairwise_cons] at h
    rw [least, ih h.2]
    cases hl : l.getLast? with
    | none => rw [List.getLast?_eq_none_iff.1 hl]; rfl
    | some b =>
      grind

theorem least_minimal {α : Type} {before : α → α → Bool} (hasymm : ∀ a b, before a b = true → before b a = false)
    (htrans : ∀ a b c, before a b = false → before b c = false → before a c = false) :
    ∀ {l : List α} {x : α}, least before l = some x → ∀ y ∈ l, before y x = false
  | [], _, h => by simp [least] at h
  | a :: l, x, h => by
    have hirrefl : ∀ a, before a a = false := fun a => by
      cases hself : before a a with
      | false => rfl
      | true => exact hself.symm.trans (hasymm a a hself)
    intro y hy
    unfold least at h
    split at h
    · rename_i hl
      obtain rfl := Option.some.inj h
      rw [least_eq_none hl, List.mem_singleton] at hy
      rw [hy]
      exact hirrefl a
    · rename_i z hz
      have hrest := least_minimal hasymm htrans hz
      split at h
      · rename_i hbefore
        obtain rfl := Option.some.inj h
        rcases List.mem_cons.1 hy with rfl | hy
        · exact hasymm _ _ hbefore
        · exact hrest y hy
      · rename_i hbefore
        obtain rfl := Option.some.inj h
        rcases List.mem_cons.1 hy with rfl | hy
        · exact hirrefl y
        · exact htrans _ _ _ (hrest y hy) (by simpa using hbefore)

variable {before : κ × ρ → κ × ρ → Bool}

@[grind →]
theorem first?_some (h : t.first? p before = some k) : ∃ r, t.get? k = some r ∧ p k r = true := by
  obtain ⟨⟨k', r⟩, hl, rfl⟩ := Option.map_eq_some_iff.1 h
  obtain ⟨hm, hp⟩ := List.mem_filter.1 (least_mem hl)
  exact ⟨r, get?_eq_some.2 hm, hp⟩

theorem first?_minimal (hasymm : ∀ a b, before a b = true → before b a = false)
    (htrans : ∀ a b c, before a b = false → before b c = false → before a c = false) {r' : ρ}
    (h : t.first? p before = some k) (hr : t.get? k = some r) (hr' : t.get? k' = some r') (hp : p k' r' = true) :
    before (k', r') (k, r) = false := by
  obtain ⟨⟨_, r₀⟩, hl, rfl⟩ := Option.map_eq_some_iff.1 h
  have hrow := get?_eq_some.2 (List.mem_filter.1 (least_mem hl)).1
  obtain rfl := Option.some.inj (hrow.symm.trans hr)
  exact least_minimal hasymm htrans hl _ (List.mem_filter.2 ⟨get?_eq_some.1 hr', hp⟩)

theorem first?_none (h : t.first? p before = none) (hr : t.get? k = some r) : p k r = false := by
  have hl := least_eq_none (Option.map_eq_none_iff.1 h)
  grind [List.filter_eq_nil_iff]

/-! ## Counting -/

theorem filter_key (t : Table κ ρ) (k : κ) : (t.rows.filter fun r => r.1 = k).map Prod.snd = (t.get? k).toList := by
  obtain ⟨rows, hnodup⟩ := t
  unfold get?
  simp only
  induction rows with
  | nil => rfl
  | cons r rows ih =>
    rw [List.map_cons, List.nodup_cons] at hnodup
    by_cases hk : r.1 = k
    · have hnone : rows.filter (fun r => r.1 = k) = [] := by
        refine List.filter_eq_nil_iff.2 fun x hx hxk => hnodup.1 ?_
        rw [hk, ← of_decide_eq_true hxk]
        exact List.mem_map_of_mem hx
      simp [hk, hnone]
    grind

theorem countWhere_key (t : Table κ ρ) (k : κ) (p : ρ → Bool) :
    t.countWhere (fun k' r => k' = k && p r) = if (t.get? k).any p then 1 else 0 := by
  have hle : ∀ l : List (κ × ρ), (l.map Prod.fst).Nodup →
      l.countP (fun r => r.1 = k && p r.2) ≤ 1 := by
    intro l
    induction l with
    | nil => intro _; simp
    | cons a l ih =>
      intro hn
      rw [List.map_cons, List.nodup_cons] at hn
      rw [List.countP_cons]
      split
      · rename_i ha
        simp only [Bool.and_eq_true, decide_eq_true_eq] at ha
        have : l.countP (fun r => r.1 = k && p r.2) = 0 := by
          grind
        omega
      · have := ih hn.2; omega
  have h1 := hle t.rows t.nodup
  simp only [countWhere]
  split
  · rename_i h
    obtain ⟨r, hr, hp⟩ := (Option.any_eq_true _ _).1 h
    have hpos : 0 < t.rows.countP (fun r => r.1 = k && p r.2) :=
      List.countP_pos_iff.2 ⟨(k, _), get?_eq_some.1 hr, by simpa using hp⟩
    omega
  · rename_i h
    rw [List.countP_eq_zero]
    rintro ⟨k', r⟩ hm hp
    simp only [Bool.and_eq_true, decide_eq_true_eq] at hp
    obtain ⟨rfl, hp⟩ := hp
    exact h (by rw [get?_eq_some.2 hm]; simpa using hp)

omit [DecidableEq κ] in
theorem countWhere_updateWhere (t : Table κ ρ) (q : κ → ρ → Bool) (f : ρ → ρ) (p : κ → ρ → Bool) :
    (t.updateWhere q f).countWhere p = t.countWhere fun k r => p k (if q k r then f r else r) := by
  unfold countWhere updateWhere
  rw [List.countP_map]
  rfl

theorem rows_insertOrIgnore (h : t.get? k = none) (r : ρ) : (t.insertOrIgnore k r).rows = t.rows ++ [(k, r)] := by
  have hfree : ¬ t.rows.any (fun x => x.1 = k) = true := by rw [any_key_iff, h]; simp
  unfold insertOrIgnore
  rw [dif_neg hfree]

theorem countWhere_insertOrIgnore (h : t.get? k = none) (r : ρ) (p : κ → ρ → Bool) :
    (t.insertOrIgnore k r).countWhere p = t.countWhere p + if p k r then 1 else 0 := by
  grind [countWhere, rows_insertOrIgnore]

theorem rows_put (h : t.get? k = some old) (r : ρ) :
    (t.put k r).rows = t.rows.map fun x => (x.1, if x.1 = k then r else x.2) := by
  have htaken : (t.updateWhere (fun k' _ => k' = k) fun _ => r).rows.any (fun x => x.1 = k) = true := by
    rw [any_key_iff, get?_updateWhere, h]
    rfl
  unfold put insertOrIgnore
  rw [dif_pos htaken]
  simp [updateWhere]

theorem rows_put_free (h : t.get? k = none) (r : ρ) : (t.put k r).rows = t.rows ++ [(k, r)] := by
  have hsame : t.updateWhere (fun k' _ => k' = k) (fun _ => r) = t := by
    refine updateWhere_eq_self fun k' old hold hk => ?_
    rw [of_decide_eq_true hk, h] at hold
    cases hold
  unfold put
  rw [hsame, rows_insertOrIgnore h]

theorem sumOver_put (t : Table κ ρ) (k : κ) (r : ρ) (w : κ → ρ → Nat) :
    (t.put k r).sumOver w + ((t.get? k).map (w k)).getD 0 = t.sumOver w + w k r := by
  unfold sumOver
  cases h : t.get? k with
  | none =>
    grind [rows_put_free]
  | some old =>
    rw [rows_put h, Option.map_some, Option.getD_some]
    have hmem := get?_eq_some.1 h
    have hnodup := t.nodup
    generalize t.rows = rows at hmem hnodup
    induction rows with
    | nil => cases hmem
    | cons x rows ih =>
      rw [List.map_cons, List.nodup_cons] at hnodup
      rw [List.map_cons, List.map_cons, List.map_cons, List.sum_cons, List.sum_cons]
      obtain rfl | hmem := List.mem_cons.1 hmem
      · have hsame : rows.map (fun x => (x.1, if x.1 = k then r else x.2)) = rows.map fun x => x :=
          List.map_congr_left fun x hx => by
            grind
        grind [List.map_id']
      grind

omit [DecidableEq κ] in
theorem sumOver_deleteWhere_le (t : Table κ ρ) (p : κ → ρ → Bool) (w : κ → ρ → Nat) :
    (t.deleteWhere p).sumOver w ≤ t.sumOver w :=
  (List.filter_sublist.map _).sum_le_sum fun _ _ => Nat.zero_le _

omit [DecidableEq κ] in
theorem countWhere_eq_sumOver (t : Table κ ρ) (p : κ → ρ → Bool) :
    t.countWhere p = t.sumOver fun k r => if p k r then 1 else 0 := by
  unfold countWhere sumOver
  induction t.rows with
  | nil => rfl
  | cons x rows ih => grind

theorem countWhere_put (h : t.get? k = some old) (r : ρ) (p : κ → ρ → Bool) :
    (t.put k r).countWhere p + (if p k old then 1 else 0) = t.countWhere p + if p k r then 1 else 0 := by
  have hsum := t.sumOver_put k r fun k r => if p k r then 1 else 0
  grind [countWhere_eq_sumOver]

omit [DecidableEq κ] in
theorem countWhere_mono (t : Table κ ρ) {q : κ → ρ → Bool} (h : ∀ k r, p k r = true → q k r = true) :
    t.countWhere p ≤ t.countWhere q :=
  List.countP_mono_left fun r _ => h r.1 r.2

theorem countWhere_eq_zero (h : ∀ k r, t.get? k = some r → p k r = false) : t.countWhere p = 0 := by
  grind [countWhere]

theorem perm_filter {t' : Table κ ρ} (h : ∀ k r, p k r = true → (t.get? k = some r ↔ t'.get? k = some r)) :
    (t.rows.filter fun r => p r.1 r.2).Perm (t'.rows.filter fun r => p r.1 r.2) := by
  refine (List.perm_ext_iff_of_nodup (t.nodup.of_map.filter _) (t'.nodup.of_map.filter _)).2 fun row => ?_
  rw [List.mem_filter, List.mem_filter, ← get?_eq_some, ← get?_eq_some]
  exact and_congr_left fun hp => h row.1 row.2 hp

theorem size_le_of_get? {ρ' : Type} {t' : Table κ ρ'} (h : ∀ k r, t.get? k = some r → (t'.get? k).isSome) :
    t.size ≤ t'.size := by
  have hs : t.rows.map Prod.fst ⊆ t'.rows.map Prod.fst := by
    intro k hk
    obtain ⟨⟨k', r⟩, hm, rfl⟩ := List.mem_map.1 hk
    obtain ⟨r', hr'⟩ := Option.isSome_iff_exists.1 (h k' r (get?_eq_some.2 hm))
    grind
  simpa [size] using (List.subperm_of_subset t.nodup hs).length_le

theorem size_put_le (t : Table κ ρ) (k : κ) (r : ρ) : (t.put k r).size ≤ t.size + 1 := by
  grind [put, insertOrIgnore, size, updateWhere]

end Table

end Lib
