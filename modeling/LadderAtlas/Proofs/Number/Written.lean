import LadderAtlas.Number.Shortest
import LadderAtlas.Proofs.Number.Misread
import Mathlib.Algebra.Ring.Nat

/-! # Numbers as they are written

A natural number in decimal digits is read as itself, as long as a numeral may have so many digits
(`whole?_toDigits`). What begins with neither a blank nor a sign nor a digit is no number. The text of a number
is never empty. -/

namespace LadderAtlas.Number
open Text

theorem decimalValue?_of_isDigit {c : Char} (h : c.isDigit = true) : decimalValue? c = some (c.toNat - 48) := by
  have hrange : (decide (c.val ≥ 48) && decide (c.val ≤ 57)) = true := h
  rw [Bool.and_eq_true, decide_eq_true_iff, decide_eq_true_iff] at hrange
  have hle : c.toNat ≤ 57 := UInt32.le_iff_toNat_le.1 hrange.2
  rw [decimalValue?, if_pos (by omega), if_pos h]

theorem isDecimal_of_isDigit {c : Char} (h : c.isDigit = true) : isDecimal c = true := by
  simp [isDecimal, decimalValue?_of_isDigit h]

theorem isDecimal_of_mem_toDigits {n : Nat} {c : Char} (h : c ∈ Nat.toDigits 10 n) : isDecimal c = true :=
  isDecimal_of_isDigit (Nat.isDigit_of_mem_toDigits (by decide) (by decide) h)

theorem isDigitLike_of_mem_toDigits {n : Nat} {c : Char} (h : c ∈ Nat.toDigits 10 n) : isDigitLike c = true := by
  simp [isDigitLike, isDecimal_of_mem_toDigits h]

theorem digits?_toDigits (n : Nat) :
    digits? (Nat.toDigits 10 n) = some ((Nat.toDigits 10 n).map fun c => c.toNat - 48) := by
  have hall : (Nat.toDigits 10 n).all isDecimal = true := List.all_eq_true.2 fun _ hc => isDecimal_of_mem_toDigits hc
  rw [digits?_eq Nat.toDigits_ne_nil fun _ => isDigitLike_of_mem_toDigits, if_pos hall]
  refine congrArg some (List.map_congr_left fun c hc => ?_)
  rw [decimalValue?_of_isDigit (Nat.isDigit_of_mem_toDigits (by decide) (by decide) hc), Option.getD_some]

theorem ofDigits_toDigits (n : Nat) : ofDigits ((Nat.toDigits 10 n).map fun c => c.toNat - 48) = n := by
  have hread : Nat.ofDigitChars 10 (Nat.toDigits 10 n) 0 = n := Nat.ofDigitChars_ten_toDigits
  rw [Nat.ofDigitChars_eq_foldl] at hread
  rw [ofDigits, List.foldl_map]
  exact hread

/-- A number is read back unless its digits are too many. -/
theorem whole?_toDigits (n : Nat) :
    whole? (Nat.toDigits 10 n) = if n < 10 ^ digitLimit then some (n : Int) else none := by
  have hlike : ∀ c ∈ Nat.toDigits 10 n, isDigitLike c = true := fun _ => isDigitLike_of_mem_toDigits
  have hlimit : digitLimit < (Nat.toDigits 10 n).length ↔ ¬ n < 10 ^ digitLimit := by
    rw [← Nat.length_toDigits_le_iff (by decide) (by decide), Nat.not_le]
  have hwhole : whole (Nat.toDigits 10 n) = if digitLimit < (Nat.toDigits 10 n).length then
      .error (.tooManyDigits (Nat.toDigits 10 n).length) else .ok (n : Int) := by
    simp only [whole, trimNumeral_digits hlike, takeSign_digits hlike, digits?_toDigits, List.length_map,
      ofDigits_toDigits]
    rfl
  rw [whole?, hwhole]
  by_cases h : n < 10 ^ digitLimit
  · rw [if_neg (mt hlimit.1 (not_not_intro h)), if_pos h]
    rfl
  · rw [if_pos (hlimit.2 h), if_neg h]
    rfl

theorem natText_ne_empty (n : Nat) : natText n ≠ "" := fun h =>
  Nat.toDigits_ne_nil (String.ofList_eq_empty_iff.1 h)

theorem wholeText_ne_empty (n : Int) : wholeText n ≠ "" := by
  unfold wholeText
  split
  · exact fun h => absurd (congrArg String.toList h) (by simp)
  · exact natText_ne_empty _

theorem layOut_ne_nil (ds : List Char) (point : Int) : layOut ds point ≠ [] := by
  unfold layOut
  split
  · split
    · simp
    · split <;> simp
  · simp

theorem floatText_ne_empty (x : Float) : floatText x ≠ "" := by
  unfold floatText
  split
  · repeat' split
    all_goals decide
  · intro h
    have hnil := String.ofList_eq_empty_iff.1 h
    split at hnil
    · cases hnil
    · split at hnil
      · cases hnil
      · exact layOut_ne_nil _ _ hnil

theorem digits?_eq_none {c : Char} (h : decimalValue? c = none) (s : List Char) : digits? (c :: s) = none := by
  unfold digits?
  split <;> simp_all

/-- Trimming does not touch a first character that is no blank. -/
theorem exists_trimNumeral {c : Char} (h : isBlank c = false) (s : List Char) : ∃ t, trimNumeral (c :: s) = c :: t := by
  have hc : surroundsNumeral c = false := by simp [surroundsNumeral, h]
  have hlast : (s.reverse ++ [c]).dropWhile surroundsNumeral = s.reverse.dropWhile surroundsNumeral ++ [c] := by
    rw [List.dropWhile_append]
    split
    · rename_i hnil
      rw [List.isEmpty_iff.1 hnil, List.dropWhile_cons_of_neg (by simp [hc]), List.nil_append]
    · rfl
  refine ⟨(s.reverse.dropWhile surroundsNumeral).reverse, ?_⟩
  rw [trimNumeral, List.dropWhile_cons_of_neg (by simp [hc]), List.reverse_cons, hlast, List.reverse_append]
  rfl

theorem whole?_eq_none {c : Char} (hblank : isBlank c = false) (hdecimal : isDecimal c = false)
    (hsign : c ∉ ['-', '+']) (s : List Char) : whole? (c :: s) = none := by
  obtain ⟨t, ht⟩ := exists_trimNumeral hblank s
  have hvalue : decimalValue? c = none := by simpa [isDecimal] using hdecimal
  have htake : takeSign (c :: t) = (false, c :: t) := by
    unfold takeSign
    split
    · rename_i he
      exact absurd (by simp [(List.cons.inj he).1]) hsign
    · rename_i he
      exact absurd (by simp [(List.cons.inj he).1]) hsign
    · rfl
  rw [whole?, whole, ht, htake]
  simp only [digits?_eq_none hvalue]
  rfl

end LadderAtlas.Number
