import Mathlib.Algebra.Group.Nat.Defs
import Mathlib.Data.List.Basic
import Mathlib.Data.List.TakeWhile
import Counterpart.Text.Number

/-! Numerals. A number is read as it is written, unless its digits are more than a numeral may
have. -/

namespace Counterpart.Text

theorem isDigit_of_mem_ofNat {n : Nat} {c : Char} (h : c ∈ ofNat n) : c.isDigit = true :=
  Nat.isDigit_of_mem_toDigits (by decide) (by decide) h

theorem ofNat_ne_nil (n : Nat) : ofNat n ≠ [] := Nat.toDigits_ne_nil

theorem takeWhile_ofNat (n : Nat) : (ofNat n).takeWhile Char.isDigit = ofNat n :=
  List.takeWhile_eq_self_iff.2 fun _ h => isDigit_of_mem_ofNat h

theorem ofDigits_ofNat (n : Nat) : ofDigits (ofNat n) = n := by
  have hfold : ofDigits (ofNat n) = Nat.ofDigitChars 10 (ofNat n) 0 := by
    rw [Nat.ofDigitChars_eq_foldl, ofDigits]
    apply List.foldl_ext
    intro m c hc
    rw [digit?, if_pos (isDigit_of_mem_ofNat hc)]
    rfl
  rw [hfold]
  exact Nat.ofDigitChars_ten_toDigits

theorem head?_ofNat_ne_zero {n : Nat} (h : 0 < n) : (ofNat n).head? ≠ some '0' := by
  induction n using Nat.strongRecOn with
  | ind n ih =>
    by_cases hn : n < 10
    · have hzero : n.digitChar ≠ '0' := by
        rw [ne_eq, Nat.digitChar_eq_zero]
        omega
      rw [ofNat, Nat.toDigits_of_lt_base hn]
      simpa using hzero
    · have hfirst := ih (n / 10) (by omega) (by omega)
      have hsplit : ofNat n = ofNat (n / 10) ++ [(n % 10).digitChar] :=
        Nat.toDigits_of_base_le (by decide) (by omega)
      rw [hsplit, List.head?_append_of_ne_nil _ (ofNat_ne_nil _)]
      exact hfirst

theorem head?_ofNat_ne_minus (n : Nat) : (ofNat n).head? ≠ some '-' := by
  intro hminus
  have hdigit := isDigit_of_mem_ofNat (List.mem_of_mem_head? hminus)
  simp at hdigit

theorem length_ofNat_le_iff {n : Nat} :
    (ofNat n).length ≤ numeralLimit ↔ n < 10 ^ numeralLimit :=
  Nat.length_toDigits_le_iff (by decide) (by decide)

theorem numeralLimit_lt_length_ofNat : numeralLimit < (ofNat (10 ^ numeralLimit)).length :=
  Nat.lt_of_not_le fun h => Nat.lt_irrefl _ (length_ofNat_le_iff.1 h)

theorem magnitude_ofNat (n : Nat) : magnitude (ofNat n) =
    if n < 10 ^ numeralLimit then .ok n else .error .tooLong := by
  by_cases hzero : n = 0
  · subst hzero
    rw [if_pos (Nat.pow_pos (by decide))]
    rfl
  · have hhead := head?_ofNat_ne_zero (Nat.pos_of_ne_zero hzero)
    have hlength := @length_ofNat_le_iff n
    rw [magnitude, takeWhile_ofNat, if_neg (ofNat_ne_nil n), if_neg hhead, ofDigits_ofNat,
      if_pos rfl]
    by_cases h : n < 10 ^ numeralLimit
    · rw [if_pos h, if_neg (Nat.not_lt.2 (hlength.2 h))]
    · rw [if_neg h, if_pos (Nat.lt_of_not_le fun hle => h (hlength.1 hle))]

theorem integer_ofNat (n : Nat) : integer (ofNat n) =
    if n < 10 ^ numeralLimit then .ok (n : Int) else .error .tooLong := by
  have hnumeral : numeral (ofNat n) = (magnitude (ofNat n)).map fun m : Nat => (m : Int) := by
    rw [numeral]
    · cases magnitude (ofNat n) <;> rfl
    · intro rest he
      exact head?_ofNat_ne_minus n (he ▸ rfl)
  rw [integer, hnumeral, magnitude_ofNat]
  by_cases h : n < 10 ^ numeralLimit
  · simp [h, Except.map]
  · simp [h, Except.map]

end Counterpart.Text
