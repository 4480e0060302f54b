import LadderAtlas.Ladder.Expression
import LadderAtlas.Proofs.Ladder.Rendering
import LadderAtlas.Proofs.Text.WordChars

/-!
# Blanking out literals

Before an expression is searched for tags, two scans put blanks: the first one for quoted texts, the second one
for numerals with a radix. Each has a law for each kind of text with a rest behind it. What the second one makes
of the rest depends on the text before it through one bit only, namely whether a word goes on (`inWordAfter`).
-/

namespace LadderAtlas.Ladder
open Text

def IsQuote (q : Char) : Prop := q = '\'' ∨ q = '"'

instance (q : Char) : Decidable (IsQuote q) := inferInstanceAs (Decidable (q = '\'' ∨ q = '"'))

/-- One or more decimal digits. -/
structure IsDigits (d : List Char) : Prop where
  ne_nil : d ≠ []
  digits : ∀ c ∈ d, isDecimal c = true

instance (d : List Char) : Decidable (IsDigits d) :=
  have := List.decidableBAll (fun c => isDecimal c = true) d
  decidable_of_iff (d ≠ [] ∧ ∀ c ∈ d, isDecimal c = true) ⟨fun h => ⟨h.1, h.2⟩, fun h => ⟨h.ne_nil, h.digits⟩⟩

/-! ### Characters -/

section characters
variable {c : Char}

theorem isWordChar_of_isIdentifierPart (h : isIdentifierPart c = true) : isWordChar c = true := by
  have hn := toNat_of_isIdentifierPart h
  rw [isIdentifierPart, Bool.or_eq_true, decide_eq_true_iff] at h
  rw [isWordChar, isAlphanumeric, if_pos (by omega), Bool.or_eq_true, beq_iff_eq]
  exact h

/-- After a character of a word no path begins. -/
theorem admitsPath_of_isWordChar (h : isWordChar c = true) : admitsPath c = false := by
  simp [admitsPath, h]

theorem isDecimal_of_head (h : c = '\\' ∨ isIdentifierStart c = true) : isDecimal c = false := by
  have hn : 58 ≤ c.toNat ∧ c.toNat < 128 := by
    rcases h with rfl | h
    · decide
    · have hs := toNat_of_isIdentifierStart h
      omega
  have hdigit : c.isDigit = false := by
    rw [Bool.eq_false_iff]
    intro hd
    have := toNat_of_isDigit hd
    omega
  simp [isDecimal, decimalValue?, hn.2, hdigit]

theorem isDecimal_of_isBlank (h : isBlank c = true) : isDecimal c = false := by
  rw [Bool.eq_false_iff]
  intro hd
  have hw := isWordChar_of_isDecimal hd
  rw [isWordChar_of_isBlank h] at hw
  cases hw

end characters

/-! ### Quoted texts -/

section quotes
variable {q : Char} {t : List Char}

theorem afterQuote?_append (ht : q ∉ t) (s : List Char) : afterQuote? q (t ++ q :: s) = some s := by
  induction t with
  | nil => simp [afterQuote?]
  | cons c t ih =>
    rw [List.mem_cons, not_or] at ht
    rw [List.cons_append, afterQuote?, if_neg (Ne.symm ht.1), ih ht.2]

theorem afterQuote?_eq_none_iff : afterQuote? q t = none ↔ q ∉ t := by
  induction t with
  | nil => simp [afterQuote?]
  | cons c t ih =>
    rw [afterQuote?]
    split
    · rename_i hc
      simp [hc]
    · rename_i hc
      rw [ih, List.mem_cons, not_or]
      exact ⟨fun h => ⟨Ne.symm hc, h⟩, fun h => h.2⟩

theorem afterQuote?_eq_some {s r : List Char} (h : afterQuote? q s = some r) : ∃ t, q ∉ t ∧ s = t ++ q :: r := by
  induction s with
  | nil => cases h
  | cons c s ih =>
    rw [afterQuote?] at h
    split at h
    · rename_i hc
      obtain rfl := Option.some.inj h
      exact ⟨[], by simp, by rw [hc]; rfl⟩
    · rename_i hc
      obtain ⟨t, ht, rfl⟩ := ih h
      exact ⟨c :: t, by simp [ht, Ne.symm hc], rfl⟩

theorem blankQuotes_of_some {s r : List Char} (hq : IsQuote q) (h : afterQuote? q s = some r) :
    blankQuotes (q :: s) = ' ' :: blankQuotes r := by
  rw [blankQuotes, if_pos (by simpa [IsQuote] using hq)]
  split
  · rename_i r' h'
    cases h.symm.trans h'
    rfl
  · rename_i h'
    cases h.symm.trans h'

theorem blankQuotes_of_none {s : List Char} (h : IsQuote q → afterQuote? q s = none) :
    blankQuotes (q :: s) = q :: blankQuotes s := by
  rw [blankQuotes]
  split
  · rename_i hq
    have hnone := h (by simpa [IsQuote] using hq)
    split
    · rename_i h'
      cases hnone.symm.trans h'
    · rfl
  · rfl

theorem blankQuotes_quoted (hq : IsQuote q) (ht : q ∉ t) (s : List Char) :
    blankQuotes (q :: t ++ q :: s) = ' ' :: blankQuotes s :=
  blankQuotes_of_some hq (afterQuote?_append ht s)

theorem blankQuotes_plain (ht : ∀ c ∈ t, ¬ IsQuote c) (s : List Char) :
    blankQuotes (t ++ s) = t ++ blankQuotes s := by
  induction t with
  | nil => rfl
  | cons c t ih =>
    obtain ⟨hc, ht⟩ := List.forall_mem_cons.1 ht
    rw [List.cons_append, blankQuotes_of_none fun hq => absurd hq hc, ih ht, List.cons_append]

theorem blankQuotes_eq_self (ht : ∀ c ∈ t, ¬ IsQuote c) : blankQuotes t = t := by
  have h := blankQuotes_plain ht []
  rwa [blankQuotes, List.append_nil] at h

end quotes

/-! ### Numerals with a radix -/

section radix
variable {d v s t r : List Char} {b : Bool}

/-- Whether a word goes on after a text, given whether one did before it. -/
def inWordAfter (b : Bool) : List Char → Bool
  | [] => b
  | c :: s => inWordAfter (isWordChar c) s

/-- A text that begins neither with a decimal digit nor with a number sign. -/
def EndsNumeral (s : List Char) : Prop := ∀ c t, s = c :: t → isDecimal c = false ∧ c ≠ '#'

theorem afterDigits?_append (hd : IsDigits d) (hs : ∀ c t, s = c :: t → isDecimal c = false) :
    afterDigits? (d ++ s) = some s := by
  obtain ⟨c, d, rfl⟩ := List.exists_cons_of_ne_nil hd.ne_nil
  rw [List.cons_append, afterDigits?, if_pos (hd.digits c (by simp)), ← List.cons_append,
    List.dropWhile_append_of_pos hd.digits]
  cases s with
  | nil => rfl
  | cons x s => rw [List.dropWhile_cons_of_neg (by simp [hs x s rfl])]

theorem afterDigits?_eq_some (h : afterDigits? s = some r) : ∃ d, IsDigits d ∧ s = d ++ r := by
  cases s with
  | nil => cases h
  | cons c s =>
    by_cases hc : isDecimal c = true
    · rw [afterDigits?, if_pos hc] at h
      obtain rfl := Option.some.inj h
      refine ⟨(c :: s).takeWhile isDecimal, ⟨by simp [hc], fun x hx => ?_⟩, List.takeWhile_append_dropWhile.symm⟩
      exact List.all_eq_true.1 List.all_takeWhile x hx
    · rw [afterDigits?, if_neg hc] at h
      cases h

/-- A numeral with a radix. -/
structure IsRadixNumeral (n : List Char) : Prop where
  split : ∃ d v, IsDigits d ∧ v ≠ [] ∧ (∀ c ∈ v, isRadixDigit c = true) ∧ n = d ++ '#' :: v

/-- A text that does not go on with a digit of a numeral with a radix. -/
def EndsRadix (s : List Char) : Prop := ∀ c t, s = c :: t → isRadixDigit c = false

theorem afterRadix?_append (hn : IsRadixNumeral t) (hs : EndsRadix s) : afterRadix? (t ++ s) = some s := by
  obtain ⟨d, v, hd, hv, hdigits, rfl⟩ := hn.split
  obtain ⟨c, v, rfl⟩ := List.exists_cons_of_ne_nil hv
  have hafter : afterDigits? (d ++ '#' :: (c :: v ++ s)) = some ('#' :: (c :: v ++ s)) :=
    afterDigits?_append hd (by rintro x y he; cases he; decide)
  rw [List.append_assoc, List.cons_append, afterRadix?, hafter]
  simp only [List.cons_append, hdigits c (by simp), if_true]
  rw [List.dropWhile_append_of_pos fun x hx => hdigits x (List.mem_cons_of_mem c hx)]
  cases s with
  | nil => rfl
  | cons x s => rw [List.dropWhile_cons_of_neg (by simp [hs x s rfl])]

/-- The numeral at the start of a text is taken as far as it goes. -/
theorem afterRadix?_eq_some_iff : afterRadix? s = some r ↔ ∃ t, IsRadixNumeral t ∧ EndsRadix r ∧ s = t ++ r := by
  constructor
  · intro h
    rw [afterRadix?] at h
    split at h
    · rename_i c u hdigits
      obtain ⟨d, hd, rfl⟩ := afterDigits?_eq_some hdigits
      by_cases hc : isRadixDigit c = true
      · rw [if_pos hc] at h
        obtain rfl := Option.some.inj h
        refine ⟨d ++ '#' :: (c :: u.takeWhile isRadixDigit), ⟨d, _, hd, by simp, ?_, rfl⟩, ?_, ?_⟩
        · intro x hx
          rcases List.mem_cons.1 hx with rfl | hx
          · exact hc
          · exact List.all_eq_true.1 List.all_takeWhile x hx
        · intro x v hv
          have hhead := List.head_dropWhile_not isRadixDigit (l := u) (by simp [hv])
          simpa [hv] using hhead
        · simp [List.takeWhile_append_dropWhile]
      · rw [if_neg hc] at h
        cases h
    · cases h
  · rintro ⟨t, ht, hr, rfl⟩
    exact afterRadix?_append ht hr

/-- No numeral begins in a text without a number sign that nothing continues. -/
theorem afterRadix?_eq_none (ht : '#' ∉ t) (hs : EndsNumeral s) (hne : t ≠ []) : afterRadix? (t ++ s) = none := by
  cases h : afterRadix? (t ++ s) with
  | none => rfl
  | some r =>
    obtain ⟨n, hn, -, he⟩ := afterRadix?_eq_some_iff.1 h
    obtain ⟨d, v, hd, -, -, rfl⟩ := hn.split
    rw [List.append_assoc, List.cons_append] at he
    rcases List.append_eq_append_iff.1 he with ⟨u, rfl, hu⟩ | ⟨u, rfl, hu⟩
    · cases u with
      | nil => exact absurd rfl (hs '#' _ hu).2
      | cons c u =>
        have hc := (hs c _ hu).1
        rw [hd.digits c (by simp)] at hc
        cases hc
    · cases u with
      | nil => exact absurd rfl (hs '#' _ hu.symm).2
      | cons c u =>
        obtain ⟨rfl, -⟩ := List.cons.inj hu
        exact absurd (by simp) ht

theorem blankRadix_of_some (h : afterRadix? s = some r) : blankRadix false s = ' ' :: blankRadix true r := by
  cases s with
  | nil => cases h
  | cons c s =>
    rw [blankRadix]
    split
    · rename_i r' h'
      cases h.symm.trans h'
      rfl
    · rename_i h'
      cases h.symm.trans h'

theorem blankRadix_of_none {c : Char} (h : b = false → afterRadix? (c :: s) = none) :
    blankRadix b (c :: s) = c :: blankRadix (isWordChar c) s := by
  rw [blankRadix]
  split
  · rename_i h'
    cases b with
    | false => cases (h rfl).symm.trans h'
    | true => cases h'
  · rfl

/-- A character that belongs to no word stays, and no word goes on behind it. -/
theorem blankRadix_separator {c : Char} (hc : isWordChar c = false) (s : List Char) :
    blankRadix b (c :: s) = c :: blankRadix false s := by
  have hdecimal : isDecimal c = false := by
    rw [Bool.eq_false_iff]
    intro hd
    rw [isWordChar_of_isDecimal hd] at hc
    cases hc
  have hnone : afterRadix? (c :: s) = none := by simp [afterRadix?, afterDigits?, hdecimal]
  rw [blankRadix_of_none fun _ => hnone, hc]

theorem blankRadix_radix (hn : IsRadixNumeral t) (hs : EndsRadix s) : blankRadix false (t ++ s) = ' ' :: blankRadix true s :=
  blankRadix_of_some (afterRadix?_append hn hs)

theorem blankRadix_plain (ht : '#' ∉ t) (hs : EndsNumeral s) :
    blankRadix b (t ++ s) = t ++ blankRadix (inWordAfter b t) s := by
  induction t generalizing b with
  | nil => rfl
  | cons c t ih =>
    have hnone := afterRadix?_eq_none ht hs (by simp)
    rw [List.cons_append] at hnone ⊢
    rw [blankRadix_of_none fun _ => hnone, ih fun h => ht (List.mem_cons_of_mem c h)]
    rfl

theorem blankRadix_eq_self (ht : '#' ∉ t) : blankRadix b t = t := by
  have h := blankRadix_plain (b := b) ht (s := []) (by rintro c t he; cases he)
  rwa [blankRadix, List.append_nil] at h

end radix

end LadderAtlas.Ladder
