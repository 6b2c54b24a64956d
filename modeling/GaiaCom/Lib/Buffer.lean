/-
Byte buffers: numbers in big-endian order, and a buffer that is filled by writing one block after the other at running
offsets.
-/
import Mathlib.Tactic.Basic
import Mathlib.Data.List.Basic
import Mathlib.Algebra.Order.Ring.Nat

namespace Lib

/-- The last `width` bytes of a number, the most significant first. -/
def bigEndian : (width n : Nat) → List UInt8
  | 0, _ => []
  | width + 1, n => bigEndian width (n / 256) ++ [UInt8.ofNat n]

@[simp, grind =] theorem length_bigEndian (width n : Nat) : (bigEndian width n).length = width := by
  induction width generalizing n with
  | zero => rfl
  | succ width ih => rw [bigEndian, List.length_append, ih, List.length_singleton]

theorem bigEndian_add (a b n : Nat) : bigEndian (a + b) n = bigEndian a (n / 256 ^ b) ++ bigEndian b n := by
  induction b generalizing n <;> grind [bigEndian, Nat.div_div_eq_div_mul]

theorem ofNat_mod_mul (n k : Nat) : UInt8.ofNat (n % (256 * k)) = UInt8.ofNat n := by
  refine UInt8.toNat.inj ?_
  simp

theorem bigEndian_mod (width n : Nat) : bigEndian width (n % 256 ^ width) = bigEndian width n := by
  induction width generalizing n <;> grind [bigEndian, ofNat_mod_mul, Nat.mod_mul_right_div_self]

theorem bigEndian_inj {width m n : Nat} (hm : m < 256 ^ width) (hn : n < 256 ^ width)
    (h : bigEndian width m = bigEndian width n) : m = n := by
  induction width generalizing m n with
  | zero =>
    rw [Nat.pow_zero] at hm hn
    omega
  | succ width ih =>
    grind [bigEndian, List.append_inj, UInt8.toNat_ofNat']

def setAt (buffer block : List UInt8) (offset : Nat) : Option (List UInt8) :=
  if offset + block.length ≤ buffer.length then
    some (buffer.take offset ++ block ++ buffer.drop (offset + block.length))
  else none

def setAll (buffer : List UInt8) (offset : Nat) : List (List UInt8 × Nat) → Option (List UInt8)
  | [] => some buffer
  | (block, width) :: blocks => (setAt buffer block offset).bind fun buffer => setAll buffer (offset + width) blocks

theorem setAt_append {d rest block : List UInt8} (h : block.length ≤ rest.length) :
    setAt (d ++ rest) block d.length = some (d ++ block ++ rest.drop block.length) := by
  unfold setAt
  rw [if_pos (by rw [List.length_append]; omega), List.take_left, ← List.drop_drop, List.drop_left]

/-- Blocks of the widths that they are given fill a buffer of just that size, whatever stood in it. -/
theorem setAll_exact {blocks : List (List UInt8 × Nat)} (hwidth : ∀ b ∈ blocks, b.1.length = b.2) {d rest : List UInt8}
    (hrest : rest.length = (blocks.map Prod.snd).sum) :
    setAll (d ++ rest) d.length blocks = some (d ++ (blocks.map Prod.fst).flatten) := by
  induction blocks generalizing d rest <;> grind [setAll, setAt_append]

theorem setAll_replicate {blocks : List (List UInt8 × Nat)} (hwidth : ∀ b ∈ blocks, b.1.length = b.2) {size : Nat}
    (hsize : size = (blocks.map Prod.snd).sum) :
    setAll (List.replicate size 0) 0 blocks = some (blocks.map Prod.fst).flatten := by
  have hrest : (List.replicate size (0 : UInt8)).length = (blocks.map Prod.snd).sum := by
    rw [List.length_replicate, hsize]
  have hset := setAll_exact hwidth (d := []) hrest
  rwa [List.nil_append, List.nil_append] at hset

end Lib
