import LadderAtlas.Number.Whole

/-! # Digits that are no numeral

A text of digits need not be a numeral: a digit may have no value, and the digits may be too many.
`whole_eq_error_iff`: of the texts of digits these are the ones that `whole` refuses. -/

namespace LadderAtlas.Number
open Text

/-- A text of digits some of which have no value, or which are too many for a numeral. -/
structure Misread (s : List Char) : Prop where
  ne_nil : s ≠ []
  digits : ∀ c ∈ s, isDigitLike c = true
  refused : (∃ c ∈ s, isDecimal c = false) ∨ digitLimit < s.length

/-! ### What stands around and between digits -/

/-- The code points of the blank characters. -/
def blankPoints : List Nat :=
  [
    0x9, 0xA, 0xB, 0xC, 0xD, 0x1C, 0x1D, 0x1E, 0x1F, 0x20, 0x85, 0xA0, 0x1680, 0x2000, 0x2001, 0x2002, 0x2003,
    0x2004, 0x2005, 0x2006, 0x2007, 0x2008, 0x2009, 0x200A, 0x2028, 0x2029, 0x202F, 0x205F, 0x3000]

theorem mem_blankPoints {c : Char} (h : isBlank c = true) : c.toNat ∈ blankPoints := by
  simp only [isBlank, blankRanges, Ranges.has] at h
  simp only [blankPoints, List.mem_cons, List.not_mem_nil, or_false]
  simp at h
  omega

theorem isBlank_of_isDigitLike {c : Char} (h : isDigitLike c = true) : isBlank c = false := by
  have hall : ∀ n ∈ blankPoints, isDigitLike (Char.ofNat n) = false := by decide +kernel
  rw [Bool.eq_false_iff]
  intro hb
  have hc := hall _ (mem_blankPoints hb)
  rw [Char.ofNat_toNat, h] at hc
  cases hc

theorem ne_of_isDigitLike {c : Char} (h : isDigitLike c = true) : c ≠ '-' ∧ c ≠ '+' ∧ c ≠ '_' := by
  refine ⟨?_, ?_, ?_⟩ <;> rintro rfl <;> exact absurd h (by decide)

variable {s : List Char}

theorem dropWhile_surrounds (h : ∀ c ∈ s, isDigitLike c = true) : s.dropWhile surroundsNumeral = s := by
  cases s with
  | nil => rfl
  | cons c s =>
    have hc : surroundsNumeral c = false := by
      simp [surroundsNumeral, isBlank_of_isDigitLike (h c (by simp))]
    rw [List.dropWhile_cons_of_neg (by simp [hc])]

theorem trimNumeral_digits (h : ∀ c ∈ s, isDigitLike c = true) : trimNumeral s = s := by
  unfold trimNumeral
  rw [dropWhile_surrounds h, dropWhile_surrounds fun c hc => h c (List.mem_reverse.1 hc), List.reverse_reverse]

theorem takeSign_digits (h : ∀ c ∈ s, isDigitLike c = true) : takeSign s = (false, s) := by
  unfold takeSign
  split
  · exact absurd rfl (ne_of_isDigitLike (h _ (by simp))).1
  · exact absurd rfl (ne_of_isDigitLike (h _ (by simp))).2.1
  · rfl

/-! ### Numerals of digits -/

/-- Between digits there is no underscore, so each has to have a value. -/
theorem digits?_eq (hs : s ≠ []) (h : ∀ c ∈ s, isDigitLike c = true) :
    digits? s = if s.all isDecimal then some (s.map fun c => (decimalValue? c).getD 0) else none := by
  induction s with
  | nil => exact absurd rfl hs
  | cons c s ih =>
    cases s with
    | nil => cases hc : decimalValue? c <;> simp [digits?, isDecimal, hc]
    | cons d s =>
      have hd : d ≠ '_' := (ne_of_isDigitLike (h d (by simp))).2.2
      have hcons : digits? (c :: d :: s) = do return (← decimalValue? c) :: (← digits? (d :: s)) := by
        refine digits?.eq_4 c (d :: s) (by simp) ?_
        rintro t he
        exact hd (List.cons.inj he).1
      rw [hcons, ih (by simp) fun e he => h e (List.mem_cons_of_mem _ he)]
      cases hc : decimalValue? c with
      | none => simp [isDecimal, hc]
      | some n =>
        have hdec : isDecimal c = true := by simp [isDecimal, hc]
        have hall : (c :: d :: s).all isDecimal = (d :: s).all isDecimal := by
          rw [List.all_cons, hdec, Bool.true_and]
        rw [hall]
        split
        · simp [hc]
        · rfl

/-- A text of digits is refused if it is misread, and only then. -/
theorem whole_eq_error_iff (hs : s ≠ []) (h : ∀ c ∈ s, isDigitLike c = true) :
    (∃ f, whole s = .error f) ↔ Misread s := by
  have hnone : digits? s = none → whole s = .error (.notWhole (String.ofList s)) := by
    intro hd
    simp only [whole, trimNumeral_digits h, takeSign_digits h, hd]
  have hsome : ∀ ds, digits? s = some ds → whole s =
      if digitLimit < ds.length then .error (.tooManyDigits ds.length) else .ok (signed false (ofDigits ds)) := by
    intro ds hd
    simp only [whole, trimNumeral_digits h, takeSign_digits h, hd]
  have hiff : Misread s ↔ (∃ c ∈ s, isDecimal c = false) ∨ digitLimit < s.length :=
    ⟨Misread.refused, fun hr => ⟨hs, h, hr⟩⟩
  have hdigits := digits?_eq hs h
  rw [hiff]
  by_cases hall : s.all isDecimal = true
  · have hno : ¬ ∃ c ∈ s, isDecimal c = false := fun ⟨c, hc, hf⟩ => by
      rw [List.all_eq_true.1 hall c hc] at hf
      cases hf
    rw [if_pos hall] at hdigits
    rw [hsome _ hdigits, or_iff_right hno, List.length_map]
    by_cases hlong : digitLimit < s.length
    · simp [hlong]
    · simp [hlong]
  · rw [if_neg hall] at hdigits
    have hbad : ∃ c ∈ s, isDecimal c = false := by
      simpa using hall
    rw [hnone hdigits]
    exact iff_of_true ⟨_, rfl⟩ (.inl hbad)

end LadderAtlas.Number
