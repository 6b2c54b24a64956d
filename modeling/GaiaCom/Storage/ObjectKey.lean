/-
Object keys and the files that hold the objects: cleanObjectKey and pathForKey of object_store.go, on Unix. A key that
is accepted names a file below the root of the store. Cleaning can bring a blank to the start or the end of a key, which
the next cleaning takes away.
-/
import GaiaCom.Lib.Path
import GaiaCom.Lib.Utf8

namespace GaiaCom.Storage

open Lib Lib.Path

/-- `cleanObjectKey`. -/
def cleanObjectKey (key : List UInt8) : Option (List UInt8) :=
  let normalized := (Utf8.trimBytes key).map fun b => if b = 0x5C then slash else b
  let cleanKey := clean normalized
  if cleanKey = dot ∨ cleanKey = [] ∨ cleanKey = dotdot ∨ dotdot ++ [slash] <+: cleanKey ∨ isRooted cleanKey then none
  else some cleanKey

/-- A store that `NewLocalObjectStore` made. -/
structure LocalObjectStore where
  root : List UInt8
  resolved : ∃ resolvedRoot, isRooted resolvedRoot = true ∧ root = clean resolvedRoot

/-- `pathForKey`. -/
def LocalObjectStore.pathForKey (s : LocalObjectStore) (key : List UInt8) : Option (List UInt8) := do
  let cleanKey ← cleanObjectKey key
  if isRooted cleanKey then none
  else
    let path := clean (join s.root cleanKey)
    if path ≠ s.root ∧ ¬ s.root ++ [slash] <+: path then none else some path

/-! ## The jail -/

theorem exists_names {key cleanKey : List UInt8} (h : cleanObjectKey key = some cleanKey) :
    ∃ names, names ≠ [] ∧ (∀ c ∈ names, Name c ∧ 0x5C ∉ c) ∧ cleanKey = joined names := by
  simp only [cleanObjectKey, Option.ite_none_left_eq_some, not_or, Option.some.injEq] at h
  obtain ⟨⟨hdot, -, hdotdot, hup, hroot⟩, rfl⟩ := h
  obtain ⟨names, hne, hnames, heq⟩ := exists_clean_names (by simpa using hroot) hdot hdotdot hup
  refine ⟨names, hne, fun c hc => ⟨(hnames c hc).1, fun hb => ?_⟩, heq⟩
  obtain ⟨b, -, hb⟩ := List.mem_map.1 ((hnames c hc).2 _ hb)
  by_cases h : b = 0x5C <;> simp_all [slash]

/-- Cleaning a cleaned key leaves it as it is just where there is nothing to trim. -/
theorem cleanObjectKey_cleanKey {key cleanKey : List UInt8} (h : cleanObjectKey key = some cleanKey) :
    cleanObjectKey cleanKey = some cleanKey ↔ Utf8.trimBytes cleanKey = cleanKey := by
  constructor
  · intro hagain
    -- cleaning adds nothing, so that the trimmed key is no shorter
    simp only [cleanObjectKey, Option.ite_none_left_eq_some, not_or, Option.some.injEq] at hagain
    obtain ⟨⟨hdot, -, -, -, hroot⟩, heq⟩ := hagain
    have hlength := length_clean_le (by simpa using hroot) hdot
    rw [heq, List.length_map] at hlength
    exact (Utf8.trimBytes_sublist cleanKey).eq_of_length_le hlength
  · intro htrim
    obtain ⟨names, hne, hnames, rfl⟩ := exists_names h
    have hmap : (joined names).map (fun b => if b = 0x5C then slash else b) = joined names := by
      refine (List.map_congr_left fun b hb => ?_).trans (List.map_id _)
      rcases mem_joined hb with rfl | ⟨c, hc, hb⟩
      · rfl
      · have hback : b ≠ 0x5C := fun h => (hnames c hc).2 (h ▸ hb)
        exact if_neg hback
    simp only [cleanObjectKey, Option.ite_none_left_eq_some, Option.some.injEq] at h ⊢
    rw [htrim, hmap, clean_joined hne fun c hc => (hnames c hc).1]
    exact ⟨h.2 ▸ h.1, rfl⟩

variable (s : LocalObjectStore)

theorem LocalObjectStore.exists_root : ∃ names, (∀ c ∈ names, Name c) ∧ s.root = slash :: joined names := by
  obtain ⟨dir, hdir, hroot⟩ := s.resolved
  exact hroot ▸ exists_clean_rooted hdir

/-- A file strictly below a directory. -/
def Below (root path : List UInt8) : Prop :=
  ∃ names, names ≠ [] ∧ (∀ c ∈ names, Name c) ∧ path.splitOn slash = root.splitOn slash ++ names

/-- An accepted key is a file of the store's directory, unless that is the root of the file system. -/
theorem pathForKey_eq {key cleanKey : List UInt8} (h : cleanObjectKey key = some cleanKey) :
    s.pathForKey key = if s.root = [slash] then none else some (s.root ++ slash :: cleanKey) := by
  obtain ⟨ks, hne, hks, rfl⟩ := exists_names h
  replace hks : ∀ c ∈ ks, Name c := fun c hc => (hks c hc).1
  obtain ⟨names, hnames, hroot⟩ := s.exists_root
  have hall : ∀ c ∈ names ++ ks, Name c := fun c hc => (List.mem_append.1 hc).elim (hnames c) (hks c)
  obtain ⟨b, rest, hb, heq⟩ := joined_eq_cons hne hks
  rw [LocalObjectStore.pathForKey, h, Option.bind_eq_bind, Option.bind_some, isRooted_joined hne hks, hroot,
    join_rooted hnames hks, clean_rooted hall]
  by_cases hslash : names = []
  · subst hslash
    have hne' : joined ks ≠ [] := by simp [heq]
    have hpre : ¬ [slash] <+: joined ks := by simp [heq, hb.symm]
    simp [joined_nil, hne', hpre]
  · obtain ⟨d, more, -, hd⟩ := joined_eq_cons hslash hnames
    have hne' : joined names ≠ [] := by simp [hd]
    rw [joined_append hslash hne]
    simp [hne']

theorem key_jail : ((∀ key cleanKey, cleanObjectKey key = some cleanKey →
      ∃ path, s.pathForKey key = some path ∧ Below s.root path ∧ dotdot ∉ path.splitOn slash) ↔ s.root ≠ [slash]) ∧
    (∀ key₁ key₂ path, s.pathForKey key₁ = some path → s.pathForKey key₂ = some path →
      cleanObjectKey key₁ = cleanObjectKey key₂) ∧
    ∀ key cleanKey, cleanObjectKey key = some cleanKey →
      (cleanObjectKey cleanKey = some cleanKey ↔ Utf8.trimBytes cleanKey = cleanKey) := by
  refine ⟨⟨fun h hroot => ?_, fun hroot key cleanKey hkey => ?_⟩, fun key₁ key₂ path h₁ h₂ => ?_,
    fun key cleanKey => cleanObjectKey_cleanKey⟩
  · have ha : cleanObjectKey [0x61] = some [0x61] := by decide +kernel
    obtain ⟨path, hpath, -⟩ := h _ _ ha
    rw [pathForKey_eq s ha, if_pos hroot] at hpath
    cases hpath
  · obtain ⟨ks, hne, hks, rfl⟩ := exists_names hkey
    obtain ⟨names, hnames, hnamed⟩ := s.exists_root
    have hsplit : (s.root ++ slash :: joined ks).splitOn slash = s.root.splitOn slash ++ ks := by
      rw [List.splitOn_append_cons_self, splitOn_joined hne fun c hc => (hks c hc).1]
    refine ⟨_, (pathForKey_eq s hkey).trans (if_neg hroot), ⟨ks, hne, fun c hc => (hks c hc).1, hsplit⟩, fun hup => ?_⟩
    rw [hsplit, List.mem_append, hnamed] at hup
    rcases hup with hup | hup
    · rcases splitOn_rooted hnames _ hup with h | h
      · cases h
      · exact h.2.2.2 rfl
    · exact (hks _ hup).1.2.2.2 rfl
  · have haccepted : ∀ {key path}, s.pathForKey key = some path →
        ∃ cleanKey, cleanObjectKey key = some cleanKey ∧ path = s.root ++ slash :: cleanKey := by
      intro key path h
      cases hkey : cleanObjectKey key with
      | none => simp [LocalObjectStore.pathForKey, hkey] at h
      | some cleanKey =>
        rw [pathForKey_eq s hkey, Option.ite_none_left_eq_some] at h
        exact ⟨cleanKey, rfl, (Option.some.inj h.2).symm⟩
    obtain ⟨k₁, hk₁, rfl⟩ := haccepted h₁
    obtain ⟨k₂, hk₂, heq⟩ := haccepted h₂
    rw [hk₁, hk₂, (List.cons.inj (List.append_cancel_left heq)).2]

/-- A blank after `x/../` is the start of the cleaned key. -/
theorem exposed_blank : cleanObjectKey ("x/../ a".toUTF8.toList) = some " a".toUTF8.toList ∧
    cleanObjectKey " a".toUTF8.toList = some "a".toUTF8.toList := by
  decide +kernel

end GaiaCom.Storage
