/-
core/validate: the syntax of GaiaIDs, `@local:domain`, and of domains. Every accepted text is
ASCII, so looking at characters is looking at bytes; lengths are counted in bytes.
-/
import GaiaCom.Lib.Text
import Mathlib.Data.List.DropRight

namespace GaiaCom.Core

open Lib

/-- The errors of `GaiaID`. -/
inductive GaiaIDError where
  | empty | missingAt | missingDomainSeparator | localLength | domainLength | localCharacter | domainCharacter
  deriving DecidableEq, Repr

def isAlphaNumeric (c : Char) : Bool :=
  ('0' ≤ c && c ≤ '9') || ('a' ≤ c && c ≤ 'z') || ('A' ≤ c && c ≤ 'Z')

def isLocalByte (c : Char) : Bool := isAlphaNumeric c || c == '.' || c == '_' || c == '-'

def isDomainByte (c : Char) : Bool := isAlphaNumeric c || c == '.' || c == '-'

/-- `Domain`. -/
def domain (value : String) : Bool :=
  3 ≤ len value && len value ≤ 253 && value.toList.head? != some '.' && value.toList.getLast? != some '.' &&
    value.toList.all isDomainByte

def afterColon (value : String) : String := String.ofList (value.toList.rtakeWhile (· ≠ ':'))

def beforeColon (value : String) : String := String.ofList ((value.toList.rdropWhile (· ≠ ':')).dropLast.drop 1)

/-- `GaiaID`. -/
def gaiaID (value : String) : Except GaiaIDError Unit :=
  if value = "" then .error .empty
  else if value.toList.head? ≠ some '@' then .error .missingAt
  else if ':' ∉ value.toList then .error .missingDomainSeparator
  else if len (beforeColon value) < 3 ∨ 64 < len (beforeColon value) then .error .localLength
  else if len (afterColon value) < 3 ∨ 253 < len (afterColon value) then .error .domainLength
  else if (beforeColon value).toList.all isLocalByte = false then .error .localCharacter
  else if domain (afterColon value) = false then .error .domainCharacter
  else .ok ()

example : (gaiaID "@alice:node.example").toOption = some () := by decide
example : afterColon "@alice:node.example" = "node.example" := by decide

/-! ## What is accepted -/

variable {c : Char}

theorem isDomainByte_range (h : isDomainByte c = true) : 45 ≤ c.toNat ∧ c.toNat ≤ 122 ∧ c ≠ ':' ∧ c ≠ '@' := by
  simp only [isDomainByte, isAlphaNumeric, Bool.or_eq_true, Bool.and_eq_true, decide_eq_true_eq, beq_iff_eq] at h
  refine ⟨?_, ?_, ?_, ?_⟩
  · rcases h with (((h | h) | h) | rfl) | rfl
    · exact le_trans (by decide) h.1
    · exact le_trans (by decide) h.1
    · exact le_trans (by decide) h.1
    · decide
    · decide
  · rcases h with (((h | h) | h) | rfl) | rfl
    · exact le_trans h.2 (by decide)
    · exact le_trans h.2 (by decide)
    · exact le_trans h.2 (by decide)
    · decide
    · decide
  · rintro rfl; revert h; decide
  · rintro rfl; revert h; decide

theorem isLocalByte_range (h : isLocalByte c = true) : c.toNat < 128 ∧ c ≠ ':' ∧ c ≠ '@' := by
  by_cases hu : c = '_'
  · subst hu; decide
  grind [isDomainByte, isLocalByte, isDomainByte_range]

theorem isDomainByte_lowerChar_iff (c : Char) : isDomainByte (lowerChar c) = isDomainByte c := by
  by_cases hc : 'A' ≤ c ∧ c ≤ 'Z'
  · obtain ⟨n, hl, hu, rfl⟩ := upper_cases hc
    interval_cases n <;> decide
  · simp [lowerChar, hc]

theorem isDomainByte_lowerChar (h : isDomainByte c = true) : isDomainByte (lowerChar c) = true := by
  rw [isDomainByte_lowerChar_iff, h]

theorem isLocalByte_lowerChar (h : isLocalByte c = true) : isLocalByte (lowerChar c) = true := by
  by_cases hu : c = '_'
  · subst hu; decide
  grind [isDomainByte, isLocalByte, isDomainByte_lowerChar]

theorem isDomainByte_not_space (h : isDomainByte c = true) : isSpace c = false := by
  grind [isDomainByte_range, isSpace]

theorem domain_toLower (value : String) : domain (toLower value) = domain value := by
  have hdot : ∀ o : Option Char, (o.map lowerChar != some '.') = (o != some '.') := by
    intro o
    cases o with
    | none => rfl
    | some c =>
      by_cases hc : c = '.'
      · subst hc; rfl
      · have hl : lowerChar c ≠ '.' := lowerChar_ne (by decide) hc
        rw [Option.map_some, bne_iff_ne.2 (by simpa using hl), bne_iff_ne.2 (by simpa using hc)]
  unfold domain
  rw [len_toLower, toList_toLower, List.head?_map, List.getLast?_map, hdot, hdot, List.all_map]
  congr 1
  exact congrArg (List.all value.toList) (funext isDomainByte_lowerChar_iff)

variable {value : String}

theorem domain_bytes (h : domain value = true) : 3 ≤ len value ∧ ∀ c ∈ value.toList, isDomainByte c = true := by
  grind [domain]

theorem trimSpace_of_domain (h : domain value = true) : trimSpace value = value := by
  have hspace : ∀ c ∈ value.toList, isSpace c = false := fun c hc => isDomainByte_not_space ((domain_bytes h).2 c hc)
  grind [trimSpace, trim_eq_self, List.mem_of_mem_head?, String.ofList_toList]

theorem ite_error_eq_ok {ε α : Type} {p : Prop} [Decidable p] {e : ε} {x : Except ε α} {a : α} :
    (if p then .error e else x) = .ok a ↔ ¬ p ∧ x = .ok a := by
  by_cases hp : p <;> simp [hp]

@[grind =]
theorem bind_eq_ok {ε α β : Type} {x : Except ε α} {f : α → Except ε β} {b : β} :
    (x >>= f) = .ok b ↔ ∃ a, x = .ok a ∧ f a = .ok b := by
  cases x <;> simp [bind, Except.bind]

theorem bind_eq_error {ε α β : Type} {x : Except ε α} {f : α → Except ε β} {err : ε} :
    (x >>= f) = .error err ↔ x = .error err ∨ ∃ a, x = .ok a ∧ f a = .error err := by
  cases x <;> simp [bind, Except.bind]

@[grind =]
theorem map_eq_ok {ε α β : Type} {x : Except ε α} {f : α → β} {b : β} :
    x.map f = .ok b ↔ ∃ a, x = .ok a ∧ f a = b := by
  cases x <;> simp [Except.map]

/-- `FixedHex`. -/
def fixedHex (value : String) (expectedBytes : Nat) : Bool :=
  len value = expectedBytes * 2 && value.toList.all fun c => (hexDigit c).isSome

def ensure {ε : Type} (err : ε) (p : Bool) : Except ε Unit := if p then .ok () else .error err

@[grind =]
theorem ensure_eq_ok {ε : Type} {err : ε} {p : Bool} : ensure err p = .ok () ↔ p = true := by
  cases p <;> simp [ensure]

@[grind →]
theorem gaiaID_ok (h : gaiaID value = .ok ()) :
    value.toList = '@' :: (beforeColon value).toList ++ ':' :: (afterColon value).toList ∧
      (∀ c ∈ (beforeColon value).toList, isLocalByte c = true) ∧ domain (afterColon value) = true := by
  simp only [gaiaID, ite_error_eq_ok] at h
  obtain ⟨-, hhead, hcolon, -, -, hlocal, hdomain, -⟩ := h
  refine ⟨?_, ?_, by simpa using hdomain⟩
  · rw [not_not] at hhead hcolon
    -- the text up to and including the last colon
    have happ := List.rdropWhile_append_rtakeWhile (p := fun c => decide (c ≠ ':')) (l := value.toList)
    have hcut : value.toList.rdropWhile (fun c => decide (c ≠ ':')) ≠ [] := by
      rw [Ne, List.rdropWhile_eq_nil_iff]
      intro hall
      simpa using hall ':' hcolon
    have hlast := List.rdropWhile_last_not (fun c => decide (c ≠ ':')) value.toList hcut
    have hend : (value.toList.rdropWhile fun c => decide (c ≠ ':')).getLast hcut = ':' := by simpa using hlast
    have hsplit := List.dropLast_append_getLast hcut
    rw [hend] at hsplit
    simp only [beforeColon, afterColon, String.toList_ofList]
    rw [← hsplit, List.append_assoc] at happ
    cases hd : (value.toList.rdropWhile fun c => decide (c ≠ ':')).dropLast with
    | nil =>
      rw [hd] at happ
      rw [← happ] at hhead
      simp at hhead
    | cons x xs =>
      rw [hd] at happ
      have hx : x = '@' := by rw [← happ] at hhead; simpa using hhead
      rw [hx] at happ
      exact happ.symm
  · simpa using hlocal

end GaiaCom.Core
