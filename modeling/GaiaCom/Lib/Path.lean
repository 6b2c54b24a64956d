/-
Slash-separated paths as Go's packages path and path/filepath clean and join them on Unix. A cleaned path has no empty
element, no `.` and no `..` but at its start.
-/
import Mathlib.Data.List.Basic

namespace Lib.Path

def slash : UInt8 := 0x2F

def dot : List UInt8 := [0x2E]

def dotdot : List UInt8 := [0x2E, 0x2E]

/-- `..` after the elements before it, the last of which comes first. -/
def up (rooted : Bool) : List (List UInt8) → List (List UInt8)
  | [] => if rooted then [] else [dotdot]
  | d :: out => if d = dotdot then dotdot :: d :: out else out

def push (rooted : Bool) (out : List (List UInt8)) (c : List UInt8) : List (List UInt8) :=
  if c = [] ∨ c = dot then out else if c = dotdot then up rooted out else c :: out

def isRooted (path : List UInt8) : Bool := path.head? == some slash

def elements (path : List UInt8) : List (List UInt8) :=
  ((path.splitOn slash).foldl (push (isRooted path)) []).reverse

def joined (cs : List (List UInt8)) : List UInt8 := [slash].intercalate cs

/-- `path.Clean`. -/
def clean (path : List UInt8) : List UInt8 :=
  if isRooted path then slash :: joined (elements path)
  else if elements path = [] then dot
  else joined (elements path)

/-- `filepath.Join`. -/
def join (a b : List UInt8) : List UInt8 :=
  if a ≠ [] then clean (a ++ slash :: b) else if b ≠ [] then clean b else []

/-! ## Elements -/

/-- An element that cleaning keeps. -/
def Name (c : List UInt8) : Prop := slash ∉ c ∧ c ≠ [] ∧ c ≠ dot ∧ c ≠ dotdot

theorem push_name {c : List UInt8} (h : Name c) (rooted : Bool) (out : List (List UInt8)) :
    push rooted out c = c :: out := by
  obtain ⟨-, hne, hdot, hdotdot⟩ := h
  rw [push, if_neg (by simp [hne, hdot]), if_neg hdotdot]

theorem foldl_push_names (rooted : Bool) : ∀ {cs : List (List UInt8)} (out), (∀ c ∈ cs, Name c) →
    cs.foldl (push rooted) out = cs.reverse ++ out
  | [], _, _ => rfl
  | c :: cs, out, h => by
    rw [List.foldl_cons, push_name (h c (List.mem_cons_self ..)),
      foldl_push_names rooted _ fun d hd => h d (List.mem_cons_of_mem _ hd)]
    simp

/-- Names, each with a property, after the `..` that nothing cancels; a rooted path keeps none of those. -/
def Stacked (rooted : Bool) (P : List UInt8 → Prop) (out : List (List UInt8)) : Prop :=
  ∃ names ups, out = names ++ ups ∧ (∀ c ∈ names, Name c ∧ P c) ∧ ∀ c ∈ ups, c = dotdot ∧ rooted = false

theorem stacked_push {rooted : Bool} {P : List UInt8 → Prop} {out : List (List UInt8)} {c : List UInt8}
    (h : Stacked rooted P out) (hslash : slash ∉ c) (hc : P c) : Stacked rooted P (push rooted out c) := by
  obtain ⟨names, ups, rfl, hnames, hups⟩ := h
  by_cases hskip : c = [] ∨ c = dot
  · rw [push, if_pos hskip]
    exact ⟨names, ups, rfl, hnames, hups⟩
  by_cases hup : c = dotdot
  · rw [push, if_neg hskip, if_pos hup]
    cases names with
    | cons d names =>
      refine ⟨names, ups, ?_, fun e he => hnames e (List.mem_cons_of_mem _ he), hups⟩
      simp [up, (hnames d (List.mem_cons_self ..)).1.2.2.2]
    | nil =>
      refine ⟨[], up rooted ups, rfl, by simp, ?_⟩
      cases ups <;> grind [up]
  · have hname : Name c := ⟨hslash, fun h => hskip (.inl h), fun h => hskip (.inr h), hup⟩
    rw [push_name hname]
    exact ⟨c :: names, ups, rfl, List.forall_mem_cons.2 ⟨⟨hname, hc⟩, hnames⟩, hups⟩

theorem mem_splitOn {x : UInt8} {bs c : List UInt8} (h : c ∈ bs.splitOn x) : x ∉ c ∧ ∀ b ∈ c, b ∈ bs := by
  induction bs generalizing c with
  | nil => simp_all
  | cons b bs ih =>
    rw [List.splitOn, List.splitOnP_cons_eq_if_modifyHead] at h
    change c ∈ if b == x then [] :: bs.splitOn x else (bs.splitOn x).modifyHead (List.cons b) at h
    obtain ⟨d, ds, hs⟩ := List.exists_cons_of_ne_nil (List.splitOn_ne_nil x bs)
    grind [List.modifyHead_cons]

/-- A path is cleaned to `..` that nothing cancels, unless it is rooted, and then names, of its own bytes. -/
theorem elements_eq (path : List UInt8) : ∃ ups names, elements path = ups ++ names ∧
    (∀ c ∈ ups, c = dotdot ∧ isRooted path = false) ∧ ∀ c ∈ names, Name c ∧ ∀ b ∈ c, b ∈ path := by
  have h : Stacked (isRooted path) (fun c => ∀ b ∈ c, b ∈ path)
      ((path.splitOn slash).foldl (push (isRooted path)) []) :=
    List.foldlRecOn _ _ ⟨[], [], rfl, by simp, by simp⟩ fun out h c hc =>
      stacked_push h (mem_splitOn hc).1 (mem_splitOn hc).2
  obtain ⟨names, ups, hout, hnames, hups⟩ := h
  refine ⟨ups.reverse, names.reverse, ?_, by simpa using hups, by simpa using hnames⟩
  rw [elements, hout, List.reverse_append]

/-! ## Cleaned paths -/

@[simp] theorem isRooted_slash (path : List UInt8) : isRooted (slash :: path) = true := rfl

@[simp] theorem joined_nil : joined [] = [] := rfl

variable {names : List (List UInt8)}

theorem joined_append {ks : List (List UInt8)} (hne : names ≠ []) (hks : ks ≠ []) :
    joined (names ++ ks) = joined names ++ slash :: joined ks := by
  induction names with
  | nil => exact absurd rfl hne
  | cons c cs ih => cases cs <;> simp_all [joined, List.intercalate_cons_of_ne_nil]

theorem mem_joined {b : UInt8} (h : b ∈ joined names) : b = slash ∨ ∃ c ∈ names, b ∈ c := by
  induction names with
  | nil => cases h
  | cons c cs ih => cases cs <;> simp_all [joined, List.intercalate_cons_of_ne_nil]; grind

theorem joined_eq_cons (hne : names ≠ []) (h : ∀ c ∈ names, Name c) :
    ∃ b rest, b ≠ slash ∧ joined names = b :: rest := by
  obtain ⟨c, cs, rfl⟩ := List.exists_cons_of_ne_nil hne
  obtain ⟨hslash, hc, -⟩ := h c (List.mem_cons_self ..)
  obtain ⟨b, c, rfl⟩ := List.exists_cons_of_ne_nil hc
  have hb : b ≠ slash := fun hb => hslash (hb ▸ List.mem_cons_self ..)
  cases cs <;> exact ⟨b, _, hb, rfl⟩

theorem splitOn_joined (hne : names ≠ []) (h : ∀ c ∈ names, Name c) : (joined names).splitOn slash = names :=
  List.splitOn_intercalate slash (fun c hc => (h c hc).1) hne

theorem foldl_push_joined (rooted : Bool) (h : ∀ c ∈ names, Name c) (out : List (List UInt8)) :
    ((joined names).splitOn slash).foldl (push rooted) out = names.reverse ++ out := by
  by_cases hne : names = []
  · subst hne
    rfl
  · rw [splitOn_joined hne h, foldl_push_names _ _ h]

theorem isRooted_joined (hne : names ≠ []) (h : ∀ c ∈ names, Name c) : isRooted (joined names) = false := by
  obtain ⟨b, rest, hb, heq⟩ := joined_eq_cons hne h
  simp [isRooted, heq, hb]

theorem clean_joined (hne : names ≠ []) (h : ∀ c ∈ names, Name c) : clean (joined names) = joined names := by
  have helements : elements (joined names) = names := by
    rw [elements, foldl_push_joined _ h, List.append_nil, List.reverse_reverse]
  rw [clean, isRooted_joined hne h, if_neg (by simp), helements, if_neg hne]

theorem splitOn_rooted (h : ∀ c ∈ names, Name c) : ∀ c ∈ (slash :: joined names).splitOn slash, c = [] ∨ Name c := by
  rw [← List.nil_append (slash :: joined names), List.splitOn_append_cons_self, List.splitOn_nil]
  by_cases hne : names = []
  · subst hne
    simp
  · rw [splitOn_joined hne h]
    simpa using fun c hc => .inr (h c hc)

theorem foldl_push_rooted (h : ∀ c ∈ names, Name c) :
    ((slash :: joined names).splitOn slash).foldl (push true) [] = names.reverse := by
  rw [← List.nil_append (slash :: joined names), List.splitOn_append_cons_self, List.foldl_append,
    foldl_push_joined _ h, List.splitOn_nil]
  exact List.append_nil _

theorem clean_rooted (h : ∀ c ∈ names, Name c) : clean (slash :: joined names) = slash :: joined names := by
  have helements : elements (slash :: joined names) = names := by
    rw [elements, isRooted_slash, foldl_push_rooted h, List.reverse_reverse]
  rw [clean, isRooted_slash, if_pos rfl, helements]

/-- What is joined to a rooted path goes after its names. -/
theorem join_rooted {ks : List (List UInt8)} (h : ∀ c ∈ names, Name c) (hks : ∀ c ∈ ks, Name c) :
    join (slash :: joined names) (joined ks) = slash :: joined (names ++ ks) := by
  have helements : elements (slash :: (joined names ++ slash :: joined ks)) = names ++ ks := by
    rw [elements, isRooted_slash, ← List.cons_append, List.splitOn_append_cons_self, List.foldl_append,
      foldl_push_rooted h, foldl_push_joined _ hks, List.reverse_append, List.reverse_reverse, List.reverse_reverse]
  rw [join, if_pos (by simp), List.cons_append, clean, isRooted_slash, if_pos rfl, helements]

/-- A rooted path keeps no `..`. -/
theorem exists_clean_rooted {path : List UInt8} (h : isRooted path = true) :
    ∃ names, (∀ c ∈ names, Name c) ∧ clean path = slash :: joined names := by
  obtain ⟨ups, names, helements, hups, hnames⟩ := elements_eq path
  refine ⟨elements path, fun c hc => ?_, by rw [clean, if_pos h]⟩
  grind

/-- The bytes of elements with a separator each. -/
def size (cs : List (List UInt8)) : Nat := (cs.flatMap (List.cons slash)).length

theorem size_push (rooted : Bool) (out : List (List UInt8)) (c : List UInt8) :
    size (push rooted out c) ≤ size out + (c.length + 1) := by
  unfold push
  split_ifs with hskip hup
  · omega
  · subst hup
    cases out <;> grind [size, up, dotdot]
  · simp [size]
    omega

theorem size_foldl_push (rooted : Bool) (cs : List (List UInt8)) : ∀ out : List (List UInt8),
    size (cs.foldl (push rooted) out) ≤ size out + size cs := by
  induction cs with
  | nil => exact fun out => Nat.le_refl _
  | cons c cs ih =>
    intro out
    have hpush := size_push rooted out c
    have hfold := ih (push rooted out c)
    simp only [size, List.foldl_cons, List.flatMap_cons, List.length_append, List.length_cons] at *
    omega

theorem length_joined (hne : names ≠ []) : (joined names).length + 1 = size names := by
  induction names with
  | nil => exact absurd rfl hne
  | cons c cs ih => cases cs <;> simp_all [joined, size, List.intercalate_cons_of_ne_nil]

theorem clean_eq_joined {path : List UInt8} (hroot : isRooted (clean path) = false) (hdot : clean path ≠ dot) :
    elements path ≠ [] ∧ clean path = joined (elements path) := by
  have hrooted : isRooted path ≠ true := by
    intro h
    rw [clean, if_pos h, isRooted_slash] at hroot
    cases hroot
  rw [clean, if_neg hrooted] at hdot ⊢
  have hne : elements path ≠ [] := fun h => hdot (if_pos h)
  exact ⟨hne, if_neg hne⟩

/-- Cleaning adds no bytes, but where nothing is left. -/
theorem length_clean_le {path : List UInt8} (hroot : isRooted (clean path) = false) (hdot : clean path ≠ dot) :
    (clean path).length ≤ path.length := by
  obtain ⟨hne, hclean⟩ := clean_eq_joined hroot hdot
  have hpath : joined (path.splitOn slash) = path := List.intercalate_splitOn slash
  have hlength := length_joined (List.splitOn_ne_nil slash path)
  have helements := length_joined hne
  have hfold := size_foldl_push (isRooted path) (path.splitOn slash) []
  have hreverse : size (elements path) = size ((path.splitOn slash).foldl (push (isRooted path)) []) := by
    simp [elements, size]
  rw [hpath] at hlength
  rw [hclean]
  simp only [size, List.flatMap_nil, List.length_nil] at *
  omega

/-- A path that is cleaned neither to a rooted one nor to one that starts with `..` keeps names, of its own bytes. -/
theorem exists_clean_names {path : List UInt8} (hroot : isRooted (clean path) = false) (hdot : clean path ≠ dot)
    (hdotdot : clean path ≠ dotdot) (hup : ¬ dotdot ++ [slash] <+: clean path) :
    ∃ names, names ≠ [] ∧ (∀ c ∈ names, Name c ∧ ∀ b ∈ c, b ∈ path) ∧ clean path = joined names := by
  obtain ⟨hne, hclean⟩ := clean_eq_joined hroot hdot
  rw [hclean] at hdotdot hup ⊢
  obtain ⟨ups, names, helements, hups, hnames⟩ := elements_eq path
  cases ups with
  | nil => exact ⟨_, hne, helements ▸ hnames, rfl⟩
  | cons c ups =>
    obtain ⟨rfl, -⟩ := hups c (List.mem_cons_self ..)
    rw [helements, List.cons_append] at hdotdot hup
    cases hrest : ups ++ names with
    | nil => exact absurd (by rw [hrest]; rfl) hdotdot
    | cons d ds =>
      refine absurd ?_ hup
      rw [hrest, joined, List.intercalate_cons_cons]
      exact List.prefix_append ..

end Lib.Path
