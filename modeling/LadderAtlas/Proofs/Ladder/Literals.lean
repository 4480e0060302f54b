import LadderAtlas.Ladder.Reference
import LadderAtlas.Proofs.Ladder.Trimming

/-!
# Literals that name a tag

Numerals and placeholders name no tag, and neither does one quoted text. But a text counts as a literal already if
it begins and ends with the same quote, and what is between them may leave the quotes: a comparison of two quoted
texts with a tag does. `isLiteral_and_expressionTags_iff`: such texts, which are `Stitched`, are all the literals
that name a tag, and so (`classify_eq_nil_iff`) they are the operands of which the tags are lost.
-/

namespace LadderAtlas.Ladder
open Text

/-! ### Numerals -/

/-- Digits with at most one point. -/
inductive IsMantissa : List Char → Prop
  | whole {d : List Char} (hd : IsDigits d) : IsMantissa d
  | decimal {d f : List Char} (hd : IsDigits d) (hf : ∀ c ∈ f, isDecimal c = true) : IsMantissa (d ++ '.' :: f)
  | fraction {f : List Char} (hf : IsDigits f) : IsMantissa ('.' :: f)

def IsSign (s : List Char) : Prop := s = [] ∨ s = ['+'] ∨ s = ['-']

inductive IsExponent : List Char → Prop
  | exponent {e : Char} {sign d : List Char} (he : e = 'e' ∨ e = 'E') (hsign : IsSign sign) (hd : IsDigits d) :
      IsExponent (e :: (sign ++ d))

/-- A decimal numeral without its sign. -/
inductive IsNumeral : List Char → Prop
  | plain {m : List Char} (hm : IsMantissa m) : IsNumeral m
  | scaled {m x : List Char} (hm : IsMantissa m) (hx : IsExponent x) : IsNumeral (m ++ x)

section numerals
variable {s t r n : List Char} {b : Bool}

theorem exists_sign (s : List Char) : ∃ sign, IsSign sign ∧ s = sign ++ dropSign s := by
  unfold dropSign
  split
  · exact ⟨_, .inr (.inl rfl), rfl⟩
  · exact ⟨_, .inr (.inr rfl), rfl⟩
  · exact ⟨[], .inl rfl, rfl⟩

theorem afterMantissa?_eq_some (h : afterMantissa? s = some r) : ∃ m, IsMantissa m ∧ s = m ++ r := by
  unfold afterMantissa? at h
  split at h
  · obtain ⟨f, hf, rfl⟩ := afterDigits?_eq_some h
    exact ⟨'.' :: f, .fraction hf, rfl⟩
  · split at h
    · rename_i t ht
      obtain ⟨d, hd, rfl⟩ := afterDigits?_eq_some ht
      obtain rfl := Option.some.inj h
      refine ⟨d ++ '.' :: t.takeWhile isDecimal, .decimal hd fun c hc => ?_, ?_⟩
      · exact List.all_eq_true.1 List.all_takeWhile c hc
      · simp [List.takeWhile_append_dropWhile]
    · obtain ⟨d, hd, rfl⟩ := afterDigits?_eq_some h
      exact ⟨d, .whole hd, rfl⟩

theorem isExponent_of_isExponent (h : isExponent s = true) : s = [] ∨ IsExponent s := by
  cases s with
  | nil => exact .inl rfl
  | cons e s =>
    rw [isExponent, Bool.and_eq_true, Bool.or_eq_true, decide_eq_true_iff, decide_eq_true_iff,
      decide_eq_true_iff] at h
    obtain ⟨he, hdigits⟩ := h
    obtain ⟨sign, hsign, hs⟩ := exists_sign s
    obtain ⟨d, hd, hdrop⟩ := afterDigits?_eq_some hdigits
    rw [List.append_nil] at hdrop
    rw [hs, hdrop]
    exact .inr (.exponent he hsign hd)

theorem exists_numeral_of_isNumber (h : isNumber s = true) : ∃ sign n, IsSign sign ∧ IsNumeral n ∧ s = sign ++ n := by
  obtain ⟨sign, hsign, hs⟩ := exists_sign s
  obtain ⟨x, hx, hexp⟩ := (Option.any_eq_true _ _).1 h
  obtain ⟨m, hm, hdrop⟩ := afterMantissa?_eq_some hx
  rw [hdrop] at hs
  rcases isExponent_of_isExponent hexp with rfl | hexp
  · rw [List.append_nil] at hs
    exact ⟨sign, m, hsign, .plain hm, hs⟩
  · exact ⟨sign, m ++ x, hsign, .scaled hm hexp, hs⟩

theorem exists_radix_of_isRadixNumber (h : isRadixNumber s = true) :
    ∃ sign n, IsSign sign ∧ IsRadixNumeral n ∧ s = sign ++ n := by
  obtain ⟨sign, hsign, hs⟩ := exists_sign s
  unfold isRadixNumber at h
  split at h
  · rename_i v hv
    obtain ⟨d, hd, hdrop⟩ := afterDigits?_eq_some hv
    rw [Bool.and_eq_true, List.all_eq_true] at h
    rw [hdrop] at hs
    exact ⟨sign, _, hsign, ⟨d, v, hd, by simpa using h.1, h.2, rfl⟩, hs⟩
  · cases h

theorem mem_sign (h : IsSign s) {c : Char} (hc : c ∈ s) : c = '+' ∨ c = '-' := by
  rcases h with rfl | rfl | rfl
  · cases hc
  · exact .inl (List.mem_singleton.1 hc)
  · exact .inr (List.mem_singleton.1 hc)

theorem isPathless_sign (h : IsSign s) : IsPathless s := by
  intro c hc
  rcases mem_sign h hc with rfl | rfl <;> decide

theorem mem_mantissa (h : IsMantissa s) {c : Char} (hc : c ∈ s) : isDecimal c = true ∨ c = '.' := by
  cases h with
  | whole hd => exact .inl (hd.digits c hc)
  | @decimal d f hd hf =>
    rcases List.mem_append.1 hc with hc | hc
    · exact .inl (hd.digits c hc)
    · rcases List.mem_cons.1 hc with rfl | hc
      · exact .inr rfl
      · exact .inl (hf c hc)
  | @fraction f hf =>
    rcases List.mem_cons.1 hc with rfl | hc
    · exact .inr rfl
    · exact .inl (hf.digits c hc)

theorem IsMantissa.ne_nil (h : IsMantissa s) : s ≠ [] := by
  cases h with
  | whole hd => exact hd.ne_nil
  | decimal _ _ => simp
  | fraction _ => simp

theorem mem_numeral (h : IsNumeral s) {c : Char} (hc : c ∈ s) :
    isDecimal c = true ∨ c ∈ ['.', '+', '-', 'e', 'E'] := by
  have hmantissa : ∀ {m : List Char}, IsMantissa m → c ∈ m → isDecimal c = true ∨ c ∈ ['.', '+', '-', 'e', 'E'] := by
    intro m hm hc
    rcases mem_mantissa hm hc with hd | rfl
    · exact .inl hd
    · exact .inr (by decide)
  cases h with
  | plain hm => exact hmantissa hm hc
  | scaled hm hx =>
    rcases List.mem_append.1 hc with hc | hc
    · exact hmantissa hm hc
    · obtain ⟨he, hsign, hd⟩ := hx
      rcases List.mem_cons.1 hc with rfl | hc
      · right
        rcases he with rfl | rfl <;> decide
      · rcases List.mem_append.1 hc with hc | hc
        · right
          rcases mem_sign hsign hc with rfl | rfl <;> decide
        · exact .inl (hd.digits c hc)

/-- No character of a numeral stands for itself in an expression. -/
theorem plain_numeral (h : IsNumeral s) {c : Char} (hc : c ∈ s) : ¬ IsQuote c ∧ c ≠ '#' ∧ c ≠ '\\' := by
  rcases mem_numeral h hc with hd | hm
  · refine ⟨?_, ?_, ?_⟩
    · rintro (rfl | rfl) <;> exact absurd hd (by decide)
    · rintro rfl
      exact absurd hd (by decide)
    · rintro rfl
      exact absurd hd (by decide)
  · simp only [List.mem_cons, List.not_mem_nil, or_false] at hm
    rcases hm with rfl | rfl | rfl | rfl | rfl <;> decide

/-! ### Numerals are passed over -/

theorem isPathless_of_isDecimal {d : List Char} (hd : ∀ c ∈ d, isDecimal c = true) : IsPathless d := by
  intro c hc
  have hhead : ¬ (c = '\\' ∨ isIdentifierStart c = true) := by
    intro h
    have hdec := hd c hc
    rw [isDecimal_of_head h] at hdec
    cases hdec
  rw [not_or] at hhead
  exact ⟨hhead.1, by simpa using hhead.2⟩

theorem admitsAfter_eq_false (hne : s ≠ []) (h : ∀ c ∈ s, admitsPath c = false) : admitsAfter b s = false := by
  induction s generalizing b with
  | nil => exact absurd rfl hne
  | cons c s ih =>
    obtain ⟨hc, hs⟩ := List.forall_mem_cons.1 h
    rw [admitsAfter, hc]
    cases s with
    | nil => rfl
    | cons d s => exact ih (by simp) hs

theorem isPathless_mantissa (h : IsMantissa s) : IsPathless s := by
  intro c hc
  rcases mem_mantissa h hc with hd | rfl
  · exact isPathless_of_isDecimal (d := [c]) (by simpa using hd) c (by simp)
  · decide

theorem pathsFrom_mantissa (h : IsMantissa s) (r : List Char) : pathsFrom b 0 (s ++ r) = pathsFrom false 0 r := by
  have hadmits : ∀ c ∈ s, admitsPath c = false := by
    intro c hc
    rcases mem_mantissa h hc with hd | rfl
    · exact admitsPath_of_isWordChar (isWordChar_of_isDecimal hd)
    · decide
  rw [pathsFrom_pathless (isPathless_mantissa h), admitsAfter_eq_false h.ne_nil hadmits]

/-- The letter of an exponent stands behind a digit or point, where no path begins. -/
theorem pathsFrom_numeral (h : IsNumeral s) (r : List Char) : pathsFrom b 0 (s ++ r) = pathsFrom false 0 r := by
  cases h with
  | plain hm => exact pathsFrom_mantissa hm r
  | @scaled m x hm hx =>
    obtain ⟨he, hsign, hd⟩ := hx
    rename_i e sign d
    have hletter : admitsPath e = false := by
      rcases he with rfl | rfl <;> decide
    rw [List.append_assoc, pathsFrom_mantissa hm, List.cons_append, pathsFrom_pass (by simp), hletter,
      List.append_assoc, pathsFrom_pathless (isPathless_sign hsign), pathsFrom_mantissa (.whole hd)]

end numerals

/-! ### The tags of literals -/

section literals
variable {s t n : List Char}

theorem expressionTags_nil : expressionTags [] = [] := by
  rw [expressionTags, blankQuotes, blankRadix]
  rfl

/-- What follows the quoted text that an expression begins with has all the tags. -/
theorem expressionTags_quoted {q : Char} (hq : IsQuote q) (ht : q ∉ t) (s : List Char) :
    expressionTags (q :: t ++ q :: s) = expressionTags s := by
  have hblank : IsBlankText [' '] := by decide
  rw [expressionTags, blankQuotes_quoted hq ht]
  show ((pathsFrom true 0 (blankRadix false ([' '] ++ blankQuotes s))).filter _) = _
  rw [blankRadix_blank hblank, pathsFrom_blank hblank]
  rfl

theorem expressionTags_numeral {sign : List Char} (hsign : IsSign sign) (hn : IsNumeral n) :
    expressionTags (sign ++ n) = [] := by
  have hplain : ∀ c ∈ sign ++ n, ¬ IsQuote c ∧ c ≠ '#' := by
    intro c hc
    rcases List.mem_append.1 hc with hc | hc
    · rcases mem_sign hsign hc with rfl | rfl <;> decide
    · exact ⟨(plain_numeral hn hc).1, (plain_numeral hn hc).2.1⟩
  have hpaths : pathsFrom true 0 (sign ++ n) = [] := by
    rw [← List.append_nil n, pathsFrom_pathless (isPathless_sign hsign), pathsFrom_numeral hn]
    rfl
  rw [expressionTags, blankQuotes_eq_self fun c hc => (hplain c hc).1,
    blankRadix_eq_self fun h => (hplain '#' h).2 rfl, hpaths]
  rfl

theorem not_isQuote_radix (hn : IsRadixNumeral n) : ∀ c ∈ n, ¬ IsQuote c := by
  obtain ⟨d, v, hd, -, hv, rfl⟩ := hn.split
  rintro c hc (rfl | rfl)
  all_goals
    rcases List.mem_append.1 hc with hc | hc
    · exact absurd (hd.digits _ hc) (by decide)
    · rcases List.mem_cons.1 hc with he | hc
      · exact absurd he (by decide)
      · exact absurd (hv _ hc) (by decide)

theorem expressionTags_radix {sign : List Char} (hsign : IsSign sign) (hn : IsRadixNumeral n) :
    expressionTags (sign ++ n) = [] := by
  have hplain : ∀ c ∈ sign ++ n, ¬ IsQuote c := by
    intro c hc
    rcases List.mem_append.1 hc with hc | hc
    · rcases mem_sign hsign hc with rfl | rfl <;> decide
    · exact not_isQuote_radix hn c hc
  have hblank : blankRadix false n = [' '] := by
    have h := blankRadix_radix hn (s := []) (by rintro c t he; cases he)
    rwa [List.append_nil, blankRadix] at h
  have hsigned : blankRadix false (sign ++ n) = sign ++ [' '] := by
    rcases hsign with rfl | rfl | rfl
    · exact hblank
    · rw [List.singleton_append, blankRadix_separator (by decide), hblank]
      rfl
    · rw [List.singleton_append, blankRadix_separator (by decide), hblank]
      rfl
  have hpathless : IsPathless (sign ++ [' ']) := by
    intro c hc
    rcases List.mem_append.1 hc with hc | hc
    · exact isPathless_sign hsign c hc
    · obtain rfl := List.mem_singleton.1 hc
      decide
  rw [expressionTags, blankQuotes_eq_self hplain, hsigned, pathsFrom_eq_nil hpathless]
  rfl

theorem expressionTags_placeholder (h : isPlaceholder s = true) : expressionTags s = [] := by
  have hmark : ∀ c ∈ s, c = '?' := by
    rw [isPlaceholder, Bool.and_eq_true, List.all_eq_true] at h
    exact fun c hc => of_decide_eq_true (h.2 c hc)
  have hquote : ∀ c ∈ s, ¬ IsQuote c := by
    intro c hc
    rw [hmark c hc]
    decide
  have hsign : '#' ∉ s := fun hc => absurd (hmark _ hc) (by decide)
  have hpathless : IsPathless s := by
    intro c hc
    rw [hmark c hc]
    decide
  rw [expressionTags, blankQuotes_eq_self hquote, blankRadix_eq_self hsign, pathsFrom_eq_nil hpathless]
  rfl

theorem isQuoted_iff : isQuoted s = true ↔ ∃ q m, IsQuote q ∧ s = q :: (m ++ [q]) := by
  constructor
  · intro h
    unfold isQuoted at h
    split at h
    · rename_i q d u
      rw [Bool.and_eq_true, decide_eq_true_iff] at h
      obtain ⟨m, hm⟩ := List.getLast?_eq_some_iff.1 h.2
      exact ⟨q, m, by simpa [IsQuote] using h.1, by rw [hm]⟩
    · cases h
  · rintro ⟨q, m, hq, rfl⟩
    obtain ⟨d, u, hdu⟩ : ∃ d u, m ++ [q] = d :: u := List.exists_cons_of_ne_nil (by simp)
    have hlast : (d :: u).getLast? = some q := by rw [← hdu, List.getLast?_concat]
    rw [hdu, isQuoted, Bool.and_eq_true, decide_eq_true_iff]
    exact ⟨by simpa [IsQuote] using hq, hlast⟩

/-- What may stand behind a literal: nothing, or one line feed. -/
def IsEnd (a : List Char) : Prop := a = [] ∨ a = ['\n']

theorem IsEnd.blank {a : List Char} (h : IsEnd a) : IsBlankText a := by
  rcases h with rfl | rfl <;> decide

theorem isLiteral_iff : isLiteral s = true ↔ ∃ t a, IsEnd a ∧ isPlainLiteral t = true ∧ s = t ++ a := by
  rw [isLiteral, Bool.or_eq_true, Bool.and_eq_true, decide_eq_true_iff]
  constructor
  · rintro (h | ⟨hlast, h⟩)
    · exact ⟨s, [], .inl rfl, h, (List.append_nil s).symm⟩
    · obtain ⟨t, rfl⟩ := List.getLast?_eq_some_iff.1 hlast
      rw [List.dropLast_concat] at h
      exact ⟨t, ['\n'], .inr rfl, h, rfl⟩
  · rintro ⟨t, a, rfl | rfl, h, rfl⟩
    · rw [List.append_nil]
      exact .inl h
    · rw [List.getLast?_concat, List.dropLast_concat]
      exact .inr ⟨rfl, h⟩

/-- Texts that begin with a quoted text, name a tag behind it, and end with a quote of the same kind. -/
inductive Stitched : List Char → Prop
  | stitched {q : Char} {t u a : List Char} (hq : IsQuote q) (ht : q ∉ t) (ha : IsEnd a)
      (hu : expressionTags (u ++ [q]) ≠ []) : Stitched (q :: t ++ q :: (u ++ [q] ++ a))

theorem Stitched.tags (h : Stitched s) : expressionTags s ≠ [] := by
  obtain ⟨hq, ht, ha, hu⟩ := h
  rwa [expressionTags_quoted hq ht, expressionTags_append_blank ha.blank]

theorem Stitched.isLiteral (h : Stitched s) : isLiteral s = true := by
  obtain ⟨hq, ht, ha, -⟩ := h
  rename_i q t u a
  have hquoted : isQuoted (q :: t ++ q :: (u ++ [q])) = true :=
    isQuoted_iff.2 ⟨q, t ++ q :: u, hq, by simp⟩
  refine isLiteral_iff.2 ⟨q :: t ++ q :: (u ++ [q]), a, ha, ?_, by simp⟩
  rw [isPlainLiteral, hquoted, Bool.or_true]

/-- The literals that name a tag. -/
theorem isLiteral_and_expressionTags_iff : isLiteral s = true ∧ expressionTags s ≠ [] ↔ Stitched s := by
  refine ⟨?_, fun h => ⟨h.isLiteral, h.tags⟩⟩
  rintro ⟨hliteral, htags⟩
  obtain ⟨p, a, ha, hp, rfl⟩ := isLiteral_iff.1 hliteral
  rw [expressionTags_append_blank ha.blank] at htags
  rw [isPlainLiteral, Bool.or_eq_true, Bool.or_eq_true, Bool.or_eq_true] at hp
  rcases hp with ((hnumber | hradix) | hplaceholder) | hquoted
  · obtain ⟨sign, n, hsign, hn, rfl⟩ := exists_numeral_of_isNumber hnumber
    exact absurd (expressionTags_numeral hsign hn) htags
  · obtain ⟨sign, n, hsign, hn, rfl⟩ := exists_radix_of_isRadixNumber hradix
    exact absurd (expressionTags_radix hsign hn) htags
  · exact absurd (expressionTags_placeholder hplaceholder) htags
  · obtain ⟨q, m, hq, rfl⟩ := isQuoted_iff.1 hquoted
    by_cases hm : q ∈ m
    · -- the quote that ends the first quoted text is not the last one
      obtain ⟨t, u, rfl, ht⟩ := List.eq_append_cons_of_mem hm
      have hsplit : q :: (t ++ q :: u ++ [q]) = q :: t ++ q :: (u ++ [q]) := by simp
      rw [hsplit, expressionTags_quoted hq ht] at htags
      rw [hsplit, List.append_assoc, List.cons_append]
      exact .stitched hq ht ha htags
    · exact absurd ((expressionTags_quoted hq hm []).trans expressionTags_nil) htags

end literals

/-! ### Tag paths are no literals -/

/-- A tag path begins with a letter, an underscore or a backslash. -/
theorem head_of_isTagPath {s : List Char} (h : isTagPath s = true) :
    ∃ c t, s = c :: t ∧ (c = '\\' ∨ isIdentifierStart c = true) := by
  cases s with
  | nil => exact absurd h (by decide)
  | cons c t =>
    refine ⟨c, t, rfl, ?_⟩
    by_cases hc : c = '\\'
    · exact .inl hc
    · have hd : dropBackslash (c :: t) = c :: t := by
        unfold dropBackslash
        split
        · rename_i he
          exact absurd (List.cons.inj he).1 hc
        · rfl
      by_cases hs : isIdentifierStart c = true
      · exact .inr hs
      · simp [isTagPath, pathRest?, hd, afterIdentifier?, hs] at h

/-- No literal begins as a tag path does. -/
theorem isPlainLiteral_of_head {c : Char} (h : c = '\\' ∨ isIdentifierStart c = true) (t : List Char) :
    isPlainLiteral (c :: t) = false := by
  have hsign : ∀ d ∈ ['+', '-', '.', '?', '\'', '"'], c ≠ d := by
    rintro d hd rfl
    simp only [List.mem_cons, List.not_mem_nil, or_false] at hd
    rcases hd with rfl | rfl | rfl | rfl | rfl | rfl <;> exact absurd h (by decide)
  have hdrop : dropSign (c :: t) = c :: t := by
    unfold dropSign
    split
    · rename_i he
      exact absurd (List.cons.inj he).1 (hsign _ (by decide))
    · rename_i he
      exact absurd (List.cons.inj he).1 (hsign _ (by decide))
    · rfl
  have hdigits : afterDigits? (c :: t) = none := by
    simp [afterDigits?, isDecimal_of_head h]
  have hmantissa : afterMantissa? (c :: t) = none := by
    unfold afterMantissa?
    split
    · rename_i he
      exact absurd (List.cons.inj he).1 (hsign _ (by decide))
    · rw [hdigits]
  have hquoted : isQuoted (c :: t) = false := by
    cases t with
    | nil => rfl
    | cons d t => simp [isQuoted, hsign '\'' (by decide), hsign '"' (by decide)]
  have hplaceholder : isPlaceholder (c :: t) = false := by
    simp [isPlaceholder, hsign '?' (by decide)]
  simp [isPlainLiteral, isNumber, isRadixNumber, hdrop, hdigits, hmantissa, hquoted, hplaceholder]

theorem isLiteral_of_isTagPath {s : List Char} (h : isTagPath s = true) : isLiteral s = false := by
  obtain ⟨c, t, rfl, hc⟩ := head_of_isTagPath h
  unfold isLiteral
  rw [isPlainLiteral_of_head hc]
  cases t with
  | nil => simp [isPlainLiteral, isNumber, isRadixNumber, isPlaceholder, isQuoted, afterMantissa?, afterDigits?, dropSign]
  | cons d t =>
    rw [List.dropLast_cons_cons, isPlainLiteral_of_head hc]
    simp

/-! ### Operands of which the tags are lost -/

section operands
variable {operand : List Char} {role : Role}

theorem classify_of_isLiteral (h : isLiteral (trim operand) = true) : classify operand role = [] := by
  unfold classify
  cases role.usage? with
  | none => rfl
  | some usage => simp [h]

theorem classify_ne_nil (hrole : role ≠ .name) (htags : expressionTags operand ≠ [])
    (h : isLiteral (trim operand) = false) : classify operand role ≠ [] := by
  rw [← expressionTags_trim] at htags
  obtain ⟨usage, husage⟩ : ∃ usage, role.usage? = some usage := by
    cases role with
    | name => exact absurd rfl hrole
    | read => exact ⟨_, rfl⟩
    | write => exact ⟨_, rfl⟩
    | readWrite => exact ⟨_, rfl⟩
    | expression => exact ⟨_, rfl⟩
  have hne : (trim operand).isEmpty = false := by
    cases ht : trim operand with
    | nil =>
      rw [ht] at htags
      exact absurd expressionTags_nil htags
    | cons c s => rfl
  obtain ⟨t, l, hl⟩ := List.exists_cons_of_ne_nil htags
  unfold classify
  simp only [husage, hne, h, Bool.or_self, Bool.false_eq_true, if_false]
  split
  · simp
  · simp [hl]

/-- An operand that is no name and names a tag yields nothing if and only if it is stitched. -/
theorem classify_eq_nil_iff (hrole : role ≠ .name) (htags : expressionTags operand ≠ []) :
    classify operand role = [] ↔ Stitched (trim operand) := by
  rw [← isLiteral_and_expressionTags_iff, expressionTags_trim]
  constructor
  · intro h
    refine ⟨?_, htags⟩
    by_contra hliteral
    exact classify_ne_nil hrole htags (by simpa using hliteral) h
  · exact fun h => classify_of_isLiteral h.1

/-- A literal names a tag if and only if it is stitched, and of the operands that name one, in whatever role but
that of a name, just those are lost. -/
theorem lost_tags_iff (operand : List Char) :
    (isLiteral operand = true → (expressionTags operand = [] ↔ ¬ Stitched operand)) ∧
    ∀ role, role ≠ .name → expressionTags operand ≠ [] → (classify operand role = [] ↔ Stitched (trim operand)) := by
  refine ⟨fun hliteral => ?_, fun role => classify_eq_nil_iff⟩
  rw [← isLiteral_and_expressionTags_iff, not_and, not_not]
  exact ⟨fun h _ => h, fun h => h hliteral⟩

/-- A comparison that begins and ends with a quoted text: its two tags are lost. -/
theorem lost_tags_comparison :
    isLiteral "'A'<=Name AND Name<='Z'".toList = true ∧
    expressionTags "'A'<=Name AND Name<='Z'".toList = ["Name".toList, "Name".toList] ∧
    ∀ role, classify "'A'<=Name AND Name<='Z'".toList role = [] := by
  refine ⟨by decide, by decide +kernel, fun role => ?_⟩
  cases role <;> decide +kernel

theorem lost_tags_iff_comparison :
    isLiteral "'A'<=Name AND Name<='Z'".toList = true ∧ expressionTags "'A'<=Name AND Name<='Z'".toList ≠ [] ∧
    Stitched "'A'<=Name AND Name<='Z'".toList ∧ Role.write ≠ .name ∧
    classify "'A'<=Name AND Name<='Z'".toList .write = [] := by
  have hliteral : isLiteral "'A'<=Name AND Name<='Z'".toList = true := by decide
  have htags : expressionTags "'A'<=Name AND Name<='Z'".toList ≠ [] := by
    intro h
    have hsome : expressionTags "'A'<=Name AND Name<='Z'".toList = ["Name".toList, "Name".toList] := by
      decide +kernel
    rw [h] at hsome
    cases hsome
  have hstitched : Stitched "'A'<=Name AND Name<='Z'".toList := by
    by_contra h
    exact htags (((lost_tags_iff _).1 hliteral).2 h)
  exact ⟨hliteral, htags, hstitched, by decide, ((lost_tags_iff _).2 .write (by decide) htags).2 hstitched⟩

end operands

end LadderAtlas.Ladder
