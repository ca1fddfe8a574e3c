import Mathlib.Data.List.TakeWhile
import ServerActions.Text.Digit

/-!
# Numerals

A number that is written out is digits only, and reading the digits gives the number again as long
as a numeral may have that many of them.

## Main results

* `isDigits_toString` — a number is written with digits only.
* `numeral_toString` — **a number is read back from its digits**, unless there are too many.
-/

namespace ServerActions.Text

/-- The digits that numbers are written with are read as their values. -/
theorem decimal?_of_isDigit {c : Char} (h : c.isDigit = true) :
    decimal? c = some (c.toNat - '0'.toNat) := by
  have hbounds : 0x30 ≤ c.toNat ∧ c.toNat ≤ 0x30 + 9 := by
    rw [Char.isDigit, Bool.and_eq_true, decide_eq_true_iff, decide_eq_true_iff] at h
    exact ⟨UInt32.le_iff_toNat_le.mp h.1, UInt32.le_iff_toNat_le.mp h.2⟩
  rw [decimal?, decimalZeros, List.find?_cons_of_pos (by simpa using hbounds)]
  rfl

/-- The value of plain digits is the number that they are the digits of. -/
theorem decimalValue_eq_ofDigitChars {cs : List Char} (h : ∀ c ∈ cs, c.isDigit = true) (n : ℕ) :
    decimalValue n cs = some (Nat.ofDigitChars 10 cs n) := by
  induction cs generalizing n with
  | nil => rfl
  | cons c cs ih =>
    obtain ⟨hc, hcs⟩ := List.forall_mem_cons.mp h
    rw [decimalValue, decimal?_of_isDigit hc, Option.bind_some, ih hcs, Nat.ofDigitChars_cons,
      Nat.mul_comm]

/-- The characters of a number that is written out are digits. -/
theorem isDigit_of_mem_toString {n : ℕ} {c : Char} (h : c ∈ (toString n).toList) :
    c.isDigit = true := by
  rw [Nat.toString_eq_repr, Nat.toList_repr] at h
  exact Nat.isDigit_of_mem_toDigits (by decide) (by decide) h

/-- A number is written with digits only. -/
theorem isDigits_toString (n : ℕ) : isDigits (toString n).toList = true := by
  have hne : (toString n).toList ≠ [] := by
    rw [Nat.toString_eq_repr, Nat.toList_repr]
    exact Nat.toDigits_ne_nil
  rw [isDigits, Bool.and_eq_true, Bool.not_eq_true', List.isEmpty_eq_false_iff, List.all_eq_true]
  refine ⟨hne, fun c hc => ?_⟩
  rw [isDigit, decimal?_of_isDigit (isDigit_of_mem_toString hc)]
  rfl

/-- **A number is read back from its digits**, unless there are too many of them. -/
theorem numeral_toString (n : ℕ) : numeral (toString n).toList =
    if maxNumeralDigits < (toString n).length then .error (.tooLong (toString n).length)
    else .ok n := by
  have hdigits : ∀ c ∈ (toString n).toList, c.isDigit = true := fun c => isDigit_of_mem_toString
  have hall : (toString n).toList.takeWhile (fun c => (decimal? c).isSome)
      = (toString n).toList := by
    refine List.takeWhile_eq_self_iff.mpr fun c hc => ?_
    rw [decimal?_of_isDigit (hdigits c hc)]
    rfl
  have hvalue : decimalValue 0 (toString n).toList = some n := by
    rw [decimalValue_eq_ofDigitChars hdigits, Nat.toString_eq_repr, Nat.toList_repr,
      Nat.ofDigitChars_ten_toDigits]
  rw [numeral, hall, hvalue, String.length_toList]

end ServerActions.Text
