/-
The local object store: Put, Get, Delete and DeletePrefix of object_store.go over the files below its root. It is a map
from cleaned keys to whole objects. A Put that fails once the file is open leaves no object under its key, also where
there was one before.
-/
import GaiaCom.Lib.Run
import GaiaCom.Lib.Table
import GaiaCom.Storage.ObjectKey

namespace GaiaCom.Storage

open Lib Lib.Path

/-- The files by their paths. -/
abbrev Disk := Table (List UInt8) (List UInt8)

/-- A turn of the copying loop: whether the context is done, what the source gives, and whether reading or writing it
fails. -/
structure Turn where
  cancelled : Bool
  bytes : List UInt8
  fails : Bool

def Turn.smooth (t : Turn) : Bool := !t.cancelled && !t.fails

/-- `copyWithContext` from an `io.LimitReader`: what the file holds when the source ends, `none` if it returns an error. -/
def copyWithContext : List Turn → Nat → List UInt8 → Option (List UInt8)
  | [], _, written => some written
  | t :: src, limit, written =>
    if t.cancelled then none
    -- at its limit the reader reports the end
    else if limit = 0 then some written
    else if t.fails then none
    else copyWithContext src (limit - (t.bytes.take limit).length) (written ++ t.bytes.take limit)

namespace LocalObjectStore

variable (s : LocalObjectStore) (disk : Disk)

/-- `Put` with a bound below the greatest int64; a negative one is answered as 0 is. Whether the directory and the file
can be opened is up to the system. -/
def put (key : List UInt8) (src : List Turn) (maxBytes : Nat) (opens : Bool) : Disk × Option Nat :=
  match if maxBytes = 0 then none else s.pathForKey key with
  | none => (disk, none)
  | some dstPath =>
    if !opens then (disk, none)
    else
      -- an error and a size out of bounds are answered alike
      match (copyWithContext src (maxBytes + 1) []).filter fun w => w.length ≠ 0 ∧ w.length ≤ maxBytes with
      | none => (disk.deleteWhere fun path _ => path = dstPath, none)
      | some written => (disk.put dstPath written, some written.length)

/-- `Get`. It is refused, as the deletions are, if the context is done or the system does not let it. -/
def get (refused : Bool) (key : List UInt8) : Option (List UInt8) :=
  if refused then none else (s.pathForKey key).bind disk.get?

def delete (refused : Bool) (key : List UInt8) : Option Disk :=
  if refused then none else (s.pathForKey key).map fun path => disk.deleteWhere fun p _ => p = path

/-- `DeletePrefix`: the file and all below it. -/
def deletePrefix (refused : Bool) (key : List UInt8) : Option Disk :=
  if refused then none
  else (s.pathForKey key).map fun path => disk.deleteWhere fun p _ => p = path ∨ path ++ [slash] <+: p

end LocalObjectStore

inductive Op where
  | put (key : List UInt8) (src : List Turn) (maxBytes : Nat) (opens : Bool)
  | delete (refused : Bool) (key : List UInt8)
  | deletePrefix (refused : Bool) (key : List UInt8)

def LocalObjectStore.step (s : LocalObjectStore) (disk : Disk) : Op → Disk
  | .put key src maxBytes opens => (s.put disk key src maxBytes opens).1
  | .delete refused key => (s.delete disk refused key).getD disk
  | .deletePrefix refused key => (s.deletePrefix disk refused key).getD disk

/-! ## What the store is for -/

abbrev Objects := List UInt8 → Option (List UInt8)

/-- All that a source gives, if it can be copied whole and within the bound. -/
def whole (src : List Turn) (maxBytes : Nat) : Option (List UInt8) :=
  let content := src.flatMap Turn.bytes
  if src.all Turn.smooth ∧ content.length ≠ 0 ∧ content.length ≤ maxBytes then some content else none

namespace LocalObjectStore

variable (s : LocalObjectStore)

/-- The key that an object is kept under. A store at the root of the file system takes none. -/
def keyOf (key : List UInt8) : Option (List UInt8) := if s.root = [slash] then none else cleanObjectKey key

def update (m : Objects) : Op → Objects
  | .put key src maxBytes opens => fun k =>
    if maxBytes ≠ 0 ∧ opens = true ∧ some k = s.keyOf key then whole src maxBytes else m k
  | .delete refused key => fun k => if refused = false ∧ some k = s.keyOf key then none else m k
  | .deletePrefix refused key => fun k =>
    if refused = false ∧ (s.keyOf key).any (fun k' => k = k' ∨ k' ++ [slash] <+: k) = true then none else m k

def objects (disk : Disk) : Objects := fun k => disk.get? (s.root ++ slash :: k)

end LocalObjectStore

/-! ## The files are the map -/

/-- A copy that ends below the limit is of the whole source. -/
theorem filter_copyWithContext (src : List Turn) : ∀ (limit : Nat) (written : List UInt8),
    (copyWithContext src limit written).filter (fun out => out.length ≠ 0 ∧ out.length < written.length + limit) =
      if src.all Turn.smooth ∧ (written ++ src.flatMap Turn.bytes).length ≠ 0 ∧ (src.flatMap Turn.bytes).length < limit
      then some (written ++ src.flatMap Turn.bytes) else none := by
  induction src with
  | nil =>
    intro limit written
    simp [copyWithContext, Option.filter_some]
  | cons t src ih =>
    intro limit written
    rw [List.all_cons, List.flatMap_cons, copyWithContext]
    cases hcancelled : t.cancelled
    case true => simp [Turn.smooth, hcancelled]
    by_cases hlimit : limit = 0
    · simp [hlimit]
    cases hfails : t.fails
    case true => simp [Turn.smooth, hcancelled, hlimit, hfails]
    have hlength : written.length + limit =
        (written ++ t.bytes.take limit).length + (limit - (t.bytes.take limit).length) := by
      rw [List.length_append, List.length_take]
      omega
    simp only [Turn.smooth, hcancelled, hfails, Bool.not_false, Bool.and_self, Bool.true_and, Bool.false_eq_true, if_false,
      hlimit]
    rw [hlength, ih]
    by_cases hbytes : t.bytes.length ≤ limit
    · simp only [List.take_of_length_le hbytes, List.append_assoc, List.length_append, Nat.lt_sub_iff_add_lt']
    · -- the rest of the read is cut off, and the end is reported
      rw [if_neg, if_neg] <;> (simp only [List.length_append, List.length_take]; omega)

namespace LocalObjectStore

variable (s : LocalObjectStore)

theorem filter_const (o : Option (List UInt8)) (b : Bool) : o.filter (fun _ => b) = if b then o else none := by
  cases o <;> cases b <;> rfl

theorem pathForKey_map (key : List UInt8) : s.pathForKey key = (s.keyOf key).map fun k => s.root ++ slash :: k := by
  unfold keyOf
  cases hkey : cleanObjectKey key with
  | none => simp [pathForKey, hkey]
  | some k =>
    rw [pathForKey_eq s hkey]
    split_ifs <;> rfl

theorem put_eq (disk : Disk) (key : List UInt8) (src : List Turn) (maxBytes : Nat) (opens : Bool) :
    s.put disk key src maxBytes opens =
      match if maxBytes ≠ 0 ∧ opens = true then s.keyOf key else none, whole src maxBytes with
      | none, _ => (disk, none)
      | some k, none => (disk.deleteWhere fun path _ => path = s.root ++ slash :: k, none)
      | some k, some content => (disk.put (s.root ++ slash :: k) content, some content.length) := by
  have hcopy := filter_copyWithContext src (maxBytes + 1) []
  simp only [List.length_nil, Nat.zero_add, Nat.lt_succ_iff, List.nil_append] at hcopy
  rw [put, pathForKey_map, hcopy, ← whole]
  by_cases hmax : maxBytes = 0
  · simp [hmax]
  cases opens <;> cases s.keyOf key <;> cases whole src maxBytes <;> simp [hmax]

theorem objects_step (disk : Disk) (op : Op) : s.objects (s.step disk op) = s.update (s.objects disk) op := by
  funext k
  cases op with
  | put key src maxBytes opens =>
    simp only [step, put_eq, update, ← and_assoc]
    by_cases hopens : maxBytes ≠ 0 ∧ opens = true <;> cases s.keyOf key <;> cases whole src maxBytes <;>
      simp [hopens, objects, filter_const]
  | delete refused key | deletePrefix refused key =>
    simp only [step, delete, deletePrefix, update, pathForKey_map]
    cases s.keyOf key <;> cases refused <;> simp [objects, filter_const, ← not_or]

end LocalObjectStore

end GaiaCom.Storage
