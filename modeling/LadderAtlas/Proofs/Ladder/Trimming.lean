import LadderAtlas.Proofs.Ladder.FlatPaths

/-!
# Blanks at the ends of an expression

A blank ends whatever a scan is reading and begins nothing. So with blanks at the end of a text, each scan leaves
these blanks in addition, and the tags of a text do not depend on the blanks at its ends (`expressionTags_trim`).
-/

namespace LadderAtlas.Ladder
open Text

section blanks
variable {a s t r : List Char}

theorem not_isQuote_of_isBlank {c : Char} (h : isBlank c = true) : ¬ IsQuote c := by
  rintro (rfl | rfl) <;> exact absurd h (by decide)

theorem isRadixDigit_of_isBlank {c : Char} (h : isBlank c = true) : isRadixDigit c = false := by
  have hall : ∀ n ∈ Number.blankPoints, isRadixDigit (Char.ofNat n) = false := by decide
  have hc := hall _ (Number.mem_blankPoints h)
  rwa [Char.ofNat_toNat] at hc

theorem admitsPath_of_isBlank {c : Char} (h : isBlank c = true) : admitsPath c = true := by
  have hne : c ≠ '#' ∧ c ≠ '.' ∧ c ≠ '\\' := by
    refine ⟨?_, ?_, ?_⟩ <;> rintro rfl <;> exact absurd h (by decide)
  simp [admitsPath, isWordChar_of_isBlank h, hne]

theorem isPathless_of_blank (ha : IsBlankText a) : IsPathless a := by
  intro c hc
  have hb := ha c hc
  refine ⟨?_, ?_⟩
  · rintro rfl
    exact absurd hb (by decide)
  · rw [Bool.eq_false_iff]
    intro hs
    have hp := isIdentifierPart_of_isIdentifierStart hs
    rw [isIdentifierPart_of_isBlank hb] at hp
    cases hp

/-- A text that is read up to a blank is read up to the end just as well. -/
theorem dropWhile_append_blank {p : Char → Bool} (hp : ∀ c, isBlank c = true → p c = false)
    (ha : IsBlankText a) (s : List Char) : (s ++ a).dropWhile p = s.dropWhile p ++ a := by
  induction s with
  | nil =>
    cases a with
    | nil => rfl
    | cons c a => exact List.dropWhile_cons_of_neg (by simp [hp c (ha c (by simp))])
  | cons c s ih =>
    rw [List.cons_append, List.dropWhile_cons, List.dropWhile_cons]
    split
    · exact ih
    · rfl

theorem blankQuotes_append_blank (ha : IsBlankText a) (s : List Char) : blankQuotes (s ++ a) = blankQuotes s ++ a := by
  have hquote : ∀ q, IsQuote q → q ∉ a := fun q hq hqa => not_isQuote_of_isBlank (ha q hqa) hq
  fun_induction blankQuotes s with
  | case1 => exact blankQuotes_eq_self fun c hc => not_isQuote_of_isBlank (ha c hc)
  | case2 c s hc r h _ ih =>
    have hq : IsQuote c := by simpa [IsQuote] using hc
    obtain ⟨t, ht, rfl⟩ := afterQuote?_eq_some h
    rw [List.cons_append, List.append_assoc, List.cons_append, List.cons_append, ← ih]
    exact blankQuotes_quoted hq ht (r ++ a)
  | case3 c s hc h ih =>
    have hq : IsQuote c := by simpa [IsQuote] using hc
    have hnone : afterQuote? c (s ++ a) = none := by
      rw [afterQuote?_eq_none_iff, List.mem_append, not_or]
      exact ⟨afterQuote?_eq_none_iff.1 h, hquote c hq⟩
    rw [List.cons_append, blankQuotes_of_none fun _ => hnone, ih, List.cons_append]
  | case4 c s hc ih =>
    have hq : ¬ IsQuote c := by simpa [IsQuote] using hc
    rw [List.cons_append, blankQuotes_of_none fun h => absurd h hq, ih, List.cons_append]

theorem IsRadixNumeral.not_blank (h : IsRadixNumeral t) : ∀ c ∈ t, isBlank c = false := by
  obtain ⟨d, v, hd, -, hv, rfl⟩ := h.split
  intro c hc
  rw [Bool.eq_false_iff]
  intro hb
  rcases List.mem_append.1 hc with hc | hc
  · have hdec := hd.digits c hc
    rw [isDecimal_of_isBlank hb] at hdec
    cases hdec
  · rcases List.mem_cons.1 hc with rfl | hc
    · exact absurd hb (by decide)
    · have hdigit := hv c hc
      rw [isRadixDigit_of_isBlank hb] at hdigit
      cases hdigit

theorem afterRadix?_append_blank (ha : IsBlankText a) (s : List Char) :
    afterRadix? (s ++ a) = (afterRadix? s).map (· ++ a) := by
  cases h : afterRadix? s with
  | some r =>
    obtain ⟨n, hn, hr, rfl⟩ := afterRadix?_eq_some_iff.1 h
    refine afterRadix?_eq_some_iff.2 ⟨n, hn, ?_, List.append_assoc ..⟩
    intro c t he
    cases r with
    | nil =>
      have hc : a = c :: t := he
      exact isRadixDigit_of_isBlank (ha c (by simp [hc]))
    | cons x r =>
      obtain ⟨rfl, -⟩ := List.cons.inj he
      exact hr x r rfl
  | none =>
    cases h' : afterRadix? (s ++ a) with
    | none => rfl
    | some r' =>
      -- the numeral has no blanks, so it ends in front of those at the end
      obtain ⟨n, hn, hr, he⟩ := afterRadix?_eq_some_iff.1 h'
      have hprefix : ∃ u, s = n ++ u ∧ r' = u ++ a := by
        rcases List.append_eq_append_iff.1 he with ⟨u, rfl, hu⟩ | ⟨u, rfl, hu⟩
        · cases u with
          | nil => exact ⟨[], by simp, by simpa using hu.symm⟩
          | cons c u =>
            have hblank := ha c (by simp [hu])
            rw [hn.not_blank c (by simp)] at hblank
            cases hblank
        · exact ⟨u, rfl, hu⟩
      obtain ⟨u, rfl, rfl⟩ := hprefix
      have hu : EndsRadix u := by
        rintro c v rfl
        exact hr c (v ++ a) rfl
      rw [afterRadix?_append hn hu] at h
      cases h

theorem blankRadix_append_blank (ha : IsBlankText a) (b : Bool) (s : List Char) :
    blankRadix b (s ++ a) = blankRadix b s ++ a := by
  fun_induction blankRadix b s with
  | case1 b =>
    have hsign : '#' ∉ a := fun h => absurd (ha _ h) (by decide)
    exact blankRadix_eq_self hsign
  | case2 b c s r h _ ih =>
    cases b with
    | true => cases h
    | false =>
      have hr : afterRadix? (c :: s ++ a) = some (r ++ a) := by
        rw [afterRadix?_append_blank ha]
        exact congrArg _ h
      rw [blankRadix_of_some hr, ih, List.cons_append]
  | case3 b c s h ih =>
    have hr : b = false → afterRadix? (c :: (s ++ a)) = none := by
      rintro rfl
      rw [← List.cons_append, afterRadix?_append_blank ha]
      exact congrArg _ h
    rw [List.cons_append, blankRadix_of_none hr, ih, List.cons_append]

theorem afterSegment?_append_blank (ha : IsBlankText a) (s : List Char) :
    afterSegment? (s ++ a) = (afterSegment? s).map (· ++ a) := by
  cases s with
  | nil =>
    cases a with
    | nil => rfl
    | cons c a => simp [afterSegment?, isIdentifierPart_of_isBlank (ha c (by simp))]
  | cons c s =>
    rw [List.cons_append, afterSegment?, afterSegment?, ← List.cons_append,
      dropWhile_append_blank (fun _ => isIdentifierPart_of_isBlank) ha]
    split
    · rfl
    · rfl

theorem afterIdentifier?_append_blank (ha : IsBlankText a) (s : List Char) :
    afterIdentifier? (s ++ a) = (afterIdentifier? s).map (· ++ a) := by
  cases s with
  | nil =>
    cases a with
    | nil => rfl
    | cons c a => simp [afterIdentifier?, isPathless_of_blank ha c (by simp)]
  | cons c s =>
    rw [List.cons_append, afterIdentifier?, afterIdentifier?, ← List.cons_append,
      dropWhile_append_blank (fun _ => isIdentifierPart_of_isBlank) ha]
    split
    · rfl
    · rfl

theorem moduleRest_append_blank (ha : IsBlankText a) (s : List Char) : moduleRest (s ++ a) = moduleRest s ++ a := by
  fun_induction moduleRest s with
  | case1 s r h _ ih =>
    have hr : afterSegment? (s ++ a) = some (r ++ a) := by rw [afterSegment?_append_blank ha, h, Option.map_some]
    rw [List.cons_append, moduleRest_segment hr, ih]
  | case2 s h =>
    have hnone : afterSegment? (s ++ a) = none := by rw [afterSegment?_append_blank ha, h, Option.map_none]
    exact moduleRest_stuck hnone
  | case3 s h =>
    cases s with
    | nil =>
      cases a with
      | nil => exact moduleRest_append .nil (by rintro c r he; cases he)
      | cons c a =>
        refine moduleRest_of_head ?_ a
        rintro rfl
        exact absurd (ha ':' (by simp)) (by decide)
    | cons c s =>
      refine moduleRest_of_head ?_ (s ++ a)
      rintro rfl
      exact h s rfl

theorem flatPartRest_append_blank (ha : IsBlankText a) (s : List Char) :
    flatPartRest (s ++ a) = flatPartRest s ++ a := by
  have hflat : ∀ c ∈ a, c ≠ '.' ∧ c ≠ '[' ∧ c ≠ ']' := by
    intro c hc
    refine ⟨?_, ?_, ?_⟩ <;> rintro rfl <;> exact absurd (ha _ hc) (by decide)
  fun_induction flatPartRest s with
  | case1 s r h _ ih =>
    have hr : afterSegment? (s ++ a) = some (r ++ a) := by rw [afterSegment?_append_blank ha, h, Option.map_some]
    rw [List.cons_append, flatPartRest_member hr, ih]
  | case2 s h =>
    have hnone : afterSegment? (s ++ a) = none := by rw [afterSegment?_append_blank ha, h, Option.map_none]
    exact flatPartRest_stuck hnone
  | case3 s r h _ ih =>
    obtain ⟨t, ht, rfl⟩ := flat_of_dropWhile h
    rw [List.cons_append, List.append_assoc, List.cons_append, flatPartRest_index ht, ih]
  | case4 s h =>
    refine flatPartRest_open (s := s ++ a) fun r hr => ?_
    rw [List.dropWhile_append] at hr
    split at hr
    · rename_i hempty
      have hdrop : a.dropWhile (fun c => c ≠ '[' && c ≠ ']') = [] := by
        rw [← List.append_nil a, dropWhile_flat fun c hc => (hflat c hc).2]
        rfl
      cases hdrop.symm.trans hr
    · rename_i hne
      cases hd : s.dropWhile (fun c => c ≠ '[' && c ≠ ']') with
      | nil => exact hne (by rw [hd]; rfl)
      | cons c u =>
        rw [hd] at hr
        obtain ⟨rfl, -⟩ := List.cons.inj hr
        exact h u hd
  | case5 s hpoint hopen =>
    cases s with
    | nil =>
      refine flatPartRest_of_head fun c t he => ?_
      have hc := hflat c (by rw [List.nil_append] at he; simp [he])
      exact ⟨hc.1, hc.2.1⟩
    | cons c s =>
      refine flatPartRest_of_head fun x t he => ?_
      obtain ⟨rfl, -⟩ := List.cons.inj he
      refine ⟨?_, ?_⟩
      · rintro rfl
        exact hpoint s rfl
      · rintro rfl
        exact hopen s rfl

theorem flatPathRest?_append_blank (ha : IsBlankText a) (s : List Char) :
    flatPathRest? (s ++ a) = (flatPathRest? s).map (· ++ a) := by
  have hrest : ∀ r, flatPartRest (moduleRest (r ++ a)) = flatPartRest (moduleRest r) ++ a := by
    intro r
    rw [moduleRest_append_blank ha, flatPartRest_append_blank ha]
  have hdrop : dropBackslash (s ++ a) = dropBackslash s ++ a := by
    cases s with
    | nil =>
      cases a with
      | nil => rfl
      | cons c a => exact dropBackslash_of_head (isPathless_of_blank ha c (by simp)).1 a
    | cons c s =>
      by_cases hc : c = '\\'
      · subst hc
        rfl
      · rw [List.cons_append, dropBackslash_of_head hc, dropBackslash_of_head hc, List.cons_append]
  rw [flatPathRest?, hdrop, afterIdentifier?_append_blank ha, flatPathRest?, Option.map_map, Option.map_map]
  exact congrFun (congrArg Option.map (funext hrest)) _

theorem pathsFrom_append_blank (ha : IsBlankText a) (b : Bool) (k : Nat) (s : List Char) :
    pathsFrom b k (s ++ a) = pathsFrom b k s := by
  induction s generalizing b k with
  | nil =>
    induction a generalizing b k with
    | nil => rfl
    | cons c a ih =>
      have hc := isPathless_of_blank ha c (by simp)
      have ih := fun b k => ih (fun x hx => ha x (List.mem_cons_of_mem c hx)) b k
      cases k with
      | zero =>
        rw [List.nil_append, pathsFrom_pass fun _ => flatPathRest?_of_head hc.1 hc.2 a]
        exact ih _ 0
      | succ k => exact ih _ k
  | cons c s ih =>
    cases k with
    | succ k => exact ih _ k
    | zero =>
      cases h : (if b then flatPathRest? (c :: s) else none) with
      | none =>
        have hs : b = true → flatPathRest? (c :: s) = none := fun hb => by rwa [if_pos hb] at h
        have hsa : b = true → flatPathRest? (c :: (s ++ a)) = none := fun hb => by
          rw [← List.cons_append, flatPathRest?_append_blank ha, hs hb, Option.map_none]
        rw [List.cons_append, pathsFrom_pass hsa, pathsFrom_pass hs, ih]
      | some r =>
        cases b with
        | false => cases h
        | true =>
          have hr : flatPathRest? (c :: s) = some r := h
          have hra : flatPathRest? (c :: (s ++ a)) = some (r ++ a) := by
            rw [← List.cons_append, flatPathRest?_append_blank ha, hr, Option.map_some]
          have hsize : (s ++ a).length + 1 - (r ++ a).length = s.length + 1 - r.length := by
            rw [List.length_append, List.length_append]
            omega
          have htake : (c :: (s ++ a)).take (s.length + 1 - r.length) = (c :: s).take (s.length + 1 - r.length) := by
            rw [← List.cons_append]
            exact List.take_append_of_le_length (by rw [List.length_cons]; omega)
          rw [List.cons_append, pathsFrom, pathsFrom]
          simp only [if_true, hr, hra, hsize, htake, ih]

theorem admitsAfter_blank (ha : IsBlankText a) : admitsAfter true a = true := by
  induction a with
  | nil => rfl
  | cons c a ih =>
    obtain ⟨hc, ha⟩ := List.forall_mem_cons.1 ha
    rw [admitsAfter, admitsPath_of_isBlank hc, ih ha]

theorem blankRadix_blank (ha : IsBlankText a) (s : List Char) :
    blankRadix false (a ++ s) = a ++ blankRadix false s := by
  induction a with
  | nil => rfl
  | cons c a ih =>
    obtain ⟨hc, ha⟩ := List.forall_mem_cons.1 ha
    rw [List.cons_append, blankRadix_separator (isWordChar_of_isBlank hc), ih ha, List.cons_append]

theorem pathsFrom_blank (ha : IsBlankText a) (s : List Char) : pathsFrom true 0 (a ++ s) = pathsFrom true 0 s := by
  rw [pathsFrom_pathless (isPathless_of_blank ha), admitsAfter_blank ha]

theorem expressionTags_blank_append (ha : IsBlankText a) (s : List Char) :
    expressionTags (a ++ s) = expressionTags s := by
  rw [expressionTags, blankQuotes_plain fun c hc => not_isQuote_of_isBlank (ha c hc), blankRadix_blank ha,
    pathsFrom_blank ha]
  rfl

theorem expressionTags_append_blank (ha : IsBlankText a) (s : List Char) :
    expressionTags (s ++ a) = expressionTags s := by
  rw [expressionTags, blankQuotes_append_blank ha, blankRadix_append_blank ha, pathsFrom_append_blank ha]
  rfl

theorem expressionTags_trim (s : List Char) : expressionTags (trim s) = expressionTags s := by
  obtain ⟨b, a, hb, ha, hs⟩ := exists_trim s
  calc expressionTags (trim s)
      = expressionTags (b ++ trim s) := (expressionTags_blank_append hb _).symm
    _ = expressionTags (b ++ trim s ++ a) := (expressionTags_append_blank ha _).symm
    _ = expressionTags s := by rw [← hs]

end blanks

end LadderAtlas.Ladder
