/-
UTF-16: texts as sequences of 16-bit code units, which is what a JavaScript string is. A string may hold a surrogate without
its partner; read as a text each of them is replaced.
-/
import GaiaCom.Lib.Utf8

namespace Lib.Utf16

def encodeChar (c : Char) : List UInt16 :=
  if c.toNat < 0x10000 then [UInt16.ofNat c.toNat]
  else [UInt16.ofNat (0xD800 + (c.toNat - 0x10000) / 0x400), UInt16.ofNat (0xDC00 + (c.toNat - 0x10000) % 0x400)]

def encode (cs : List Char) : List UInt16 := cs.flatMap encodeChar

def isHigh (u : UInt16) : Bool := 0xD800 ≤ u.toNat && u.toNat ≤ 0xDBFF

def isLow (u : UInt16) : Bool := 0xDC00 ≤ u.toNat && u.toNat ≤ 0xDFFF

def unitChar (u : UInt16) : Char := if isHigh u || isLow u then Utf8.runeError else Char.ofNat u.toNat

def decode : List UInt16 → List Char
  | [] => []
  | [u] => [unitChar u]
  | u :: v :: us =>
    if isHigh u && isLow v then Char.ofNat (0x10000 + (u.toNat - 0xD800) * 0x400 + (v.toNat - 0xDC00)) :: decode us
    else unitChar u :: decode (v :: us)

theorem toNat_ofNat {n : Nat} (h : n < 0x10000) : (UInt16.ofNat n).toNat = n := by
  simpa using Nat.mod_eq_of_lt h

theorem decode_cons {u : UInt16} (h : isHigh u = false) (us : List UInt16) : decode (u :: us) = unitChar u :: decode us := by
  cases us with
  | nil => rfl
  | cons v us => simp [decode, h]

theorem decode_encodeChar (c : Char) (us : List UInt16) : decode (encodeChar c ++ us) = c :: decode us := by
  have hvalid := Utf8.toNat_cases c
  unfold encodeChar
  split
  · rename_i hsmall
    have hunit : (UInt16.ofNat c.toNat).toNat = c.toNat := toNat_ofNat hsmall
    have hhigh : isHigh (UInt16.ofNat c.toNat) = false := by
      rw [isHigh, hunit, Bool.and_eq_false_iff, decide_eq_false_iff_not, decide_eq_false_iff_not]
      omega
    have hlow : isLow (UInt16.ofNat c.toNat) = false := by
      rw [isLow, hunit, Bool.and_eq_false_iff, decide_eq_false_iff_not, decide_eq_false_iff_not]
      omega
    rw [List.singleton_append, decode_cons hhigh, unitChar, hhigh, hlow, hunit, Utf8.ofNat_of_eq rfl]
    rfl
  · rename_i hlarge
    have hhigh : (UInt16.ofNat (0xD800 + (c.toNat - 0x10000) / 0x400)).toNat = 0xD800 + (c.toNat - 0x10000) / 0x400 :=
      toNat_ofNat (by omega)
    have hlow : (UInt16.ofNat (0xDC00 + (c.toNat - 0x10000) % 0x400)).toNat = 0xDC00 + (c.toNat - 0x10000) % 0x400 :=
      toNat_ofNat (by omega)
    have hpair : (isHigh (UInt16.ofNat (0xD800 + (c.toNat - 0x10000) / 0x400)) &&
        isLow (UInt16.ofNat (0xDC00 + (c.toNat - 0x10000) % 0x400))) = true := by
      rw [isHigh, isLow, hhigh, hlow]
      simp only [Bool.and_eq_true, decide_eq_true_eq]
      omega
    simp only [List.cons_append, List.nil_append, decode, hpair, if_true, hhigh, hlow]
    rw [Utf8.ofNat_of_eq]
    omega

@[simp, grind =] theorem decode_encode (cs : List Char) : decode (encode cs) = cs := by
  induction cs with
  | nil => rfl
  | cons c cs ih => rw [encode, List.flatMap_cons, decode_encodeChar, ← encode, ih]

end Lib.Utf16
