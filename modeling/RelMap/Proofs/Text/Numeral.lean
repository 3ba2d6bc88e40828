import Mathlib.Algebra.Group.Nat.Defs
import Mathlib.Data.List.Basic
import RelMap.Calendar.Moment

/-!
# Numerals

Numbers are written by `digitsOf` in as many ASCII digits as they need and by `padded` in at least
so many; `natOfDigits` reads both back.
-/

namespace RelMap.Text

/-! ## ASCII digits -/

theorem isDigit_iff {c : Char} : c.isDigit = true ↔ 48 ≤ c.toNat ∧ c.toNat ≤ 57 := by
  rw [Char.isDigit, Bool.and_eq_true, decide_eq_true_eq, decide_eq_true_eq]
  exact Iff.rfl

/-- On the ASCII digits the value of a character is its distance from the zero. -/
theorem digit?_of_isDigit {c : Char} (h : c.isDigit = true) : digit? c = some (c.toNat - 48) := by
  obtain ⟨hlow, hhigh⟩ := isDigit_iff.mp h
  have hfirst : (48 ≤ c.toNat && c.toNat < 48 + 10 : Bool) = true := by
    rw [Bool.and_eq_true, decide_eq_true_eq, decide_eq_true_eq]
    omega
  -- The zero of ASCII is the first of all zeros.
  obtain ⟨others, hzeros⟩ : ∃ others, zeroDigits = 48 :: others := ⟨_, rfl⟩
  simp only [digit?, hzeros, List.find?_cons, hfirst, Option.map_some]

theorem ne_of_isDigit {c d : Char} (hc : c.isDigit = true) (hd : d.isDigit = false) : c ≠ d := by
  rintro rfl
  rw [hc] at hd
  cases hd

def Digits (s : List Char) : Prop := ∀ c ∈ s, c.isDigit = true

theorem Digits.append {s t : List Char} (hs : Digits s) (ht : Digits t) : Digits (s ++ t) :=
  List.forall_mem_append.mpr ⟨hs, ht⟩

theorem digits_zeros (n : Nat) : Digits (List.replicate n '0') := by
  intro c hc
  rw [List.eq_of_mem_replicate hc]
  rfl

theorem digits_digitsOf (n : Nat) : Digits (digitsOf n) := fun _ hc =>
  Nat.isDigit_of_mem_toDigits (by decide) (by decide) hc

theorem digits_padded (width n : Nat) : Digits (padded width n) :=
  (digits_zeros _).append (digits_digitsOf n)

/-! ## Reading digits -/

/-- On ASCII digits the number is the usual one. -/
theorem natOfDigits_eq {s : List Char} (h : Digits s) :
    natOfDigits s = Nat.ofDigitChars 10 s 0 := by
  rw [Nat.ofDigitChars_eq_foldl]
  refine List.foldl_ext _ _ 0 fun n c hc => ?_
  rw [digit?_of_isDigit (h c hc)]
  rfl

theorem natOfDigits_digitsOf (n : Nat) : natOfDigits (digitsOf n) = n := by
  rw [natOfDigits_eq (digits_digitsOf n)]
  exact Nat.ofDigitChars_ten_toDigits

/-- Zeros in front of digits do not count. -/
theorem natOfDigits_zeros_append (n : Nat) {s : List Char} (h : Digits s) :
    natOfDigits (List.replicate n '0' ++ s) = natOfDigits s := by
  rw [natOfDigits_eq ((digits_zeros n).append h), natOfDigits_eq h, Nat.ofDigitChars_append,
    Nat.ofDigitChars_replicate_zero, Nat.mul_zero]

theorem natOfDigits_padded (width n : Nat) : natOfDigits (padded width n) = n := by
  rw [padded, natOfDigits_zeros_append _ (digits_digitsOf n), natOfDigits_digitsOf]

/-! ## How many digits -/

theorem digitsOf_ne_nil (n : Nat) : digitsOf n ≠ [] := Nat.toDigits_ne_nil

theorem length_padded {width n : Nat} (hwidth : 0 < width) (hn : n < 10 ^ width) :
    (padded width n).length = width := by
  have hlength : (digitsOf n).length ≤ width :=
    (Nat.length_toDigits_le_iff (by decide) hwidth).mpr hn
  rw [padded, List.length_append, List.length_replicate]
  omega

end RelMap.Text
