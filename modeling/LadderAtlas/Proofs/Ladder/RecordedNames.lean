import LadderAtlas.Ladder.Reference
import LadderAtlas.Proofs.Ladder.Trimming

/-!
# Recorded names

The scans for quoted texts and for numerals with a radix put blanks into an expression before names are cut out of
it. So what is recorded for an operand need not stand in it: for `Data[16#F]+1` it is `Data[ ]`. A name is always
`Blanked` from a part of the operand, and it is that part itself unless a literal stands in an index
(`recorded_names`).
-/

namespace LadderAtlas.Ladder
open Text

/-- A text in which some parts were each replaced by a blank. -/
inductive Blanked (P : List Char → Prop) : List Char → List Char → Prop
  | nil : Blanked P [] []
  | keep {c : Char} {s t : List Char} (hs : Blanked P s t) : Blanked P (c :: s) (c :: t)
  | blank {l s t : List Char} (hl : P l) (hs : Blanked P s t) : Blanked P (l ++ s) (' ' :: t)

/-- The literals that a blank is put for. -/
inductive IsHidden : List Char → Prop
  | quoted {q : Char} {t : List Char} (hq : IsQuote q) (ht : q ∉ t) : IsHidden (q :: t ++ [q])
  | radix {n : List Char} (hn : IsRadixNumeral n) : IsHidden n

namespace Blanked
variable {P Q : List Char → Prop} {a b s t s' t' : List Char}

theorem refl (s : List Char) : Blanked P s s := by
  induction s with
  | nil => exact .nil
  | cons c s ih => exact .keep ih

theorem append (h : Blanked P s t) (h' : Blanked P s' t') : Blanked P (s ++ s') (t ++ t') := by
  induction h with
  | nil => exact h'
  | keep _ ih => exact .keep ih
  | blank hl _ ih =>
    rw [List.append_assoc]
    exact .blank hl ih

theorem split (h : Blanked P s (a ++ b)) : ∃ u v, s = u ++ v ∧ Blanked P u a ∧ Blanked P v b := by
  induction a generalizing s with
  | nil => exact ⟨[], s, rfl, .nil, h⟩
  | cons c a ih =>
    cases h with
    | keep hs =>
      obtain ⟨u, v, rfl, hu, hv⟩ := ih hs
      exact ⟨c :: u, v, rfl, .keep hu, hv⟩
    | blank hl hs =>
      obtain ⟨u, v, rfl, hu, hv⟩ := ih hs
      exact ⟨_, v, (List.append_assoc ..).symm, .blank hl hu, hv⟩

/-- Every part of the result comes from a part of the text. -/
theorem of_infix (h : Blanked P s t) (ht : t' <:+: t) : ∃ s', s' <:+: s ∧ Blanked P s' t' := by
  obtain ⟨a, b, rfl⟩ := ht
  obtain ⟨u, v, rfl, hu, -⟩ := h.split
  obtain ⟨u, s', rfl, -, hs'⟩ := hu.split
  exact ⟨s', ⟨u, v, rfl⟩, hs'⟩

theorem eq_of_not_mem (h : Blanked P s t) (ht : ' ' ∉ t) : s = t := by
  induction h with
  | nil => rfl
  | keep _ ih =>
    rw [List.mem_cons, not_or] at ht
    rw [ih ht.2]
  | blank _ _ _ => exact absurd (by simp) ht

theorem count_le {c : Char} (hc : c ≠ ' ') (h : Blanked P s t) : t.count c ≤ s.count c := by
  induction h with
  | nil => exact Nat.le_refl _
  | @keep d s t _ ih =>
    rw [List.count_cons, List.count_cons]
    omega
  | @blank l s t _ _ ih =>
    rw [List.count_cons_of_ne hc.symm, List.count_append]
    omega

theorem length_le (hP : ∀ l, P l → l ≠ []) (h : Blanked P s t) : t.length ≤ s.length := by
  induction h with
  | nil => exact Nat.le_refl _
  | keep _ ih => exact Nat.succ_le_succ ih
  | @blank l s t hl _ ih =>
    have hpos := List.length_pos_iff.2 (hP l hl)
    rw [List.length_cons, List.length_append]
    omega

/-- The two texts agree up to the first part that was replaced. -/
theorem eq_or_first (h : Blanked P s t) :
    s = t ∨ ∃ p l s' t', P l ∧ s = p ++ (l ++ s') ∧ t = p ++ ' ' :: t' := by
  induction h with
  | nil => exact .inl rfl
  | @keep c s t _ ih =>
    rcases ih with rfl | ⟨p, l, s', t', hl, rfl, rfl⟩
    · exact .inl rfl
    · exact .inr ⟨c :: p, l, s', t', hl, rfl, rfl⟩
  | @blank l s t hl _ _ => exact .inr ⟨[], l, s, t, hl, rfl, rfl⟩

/-- A literal without blanks that is replaced later could have been replaced at once. -/
theorem trans (hblank : ∀ l, Q l → ' ' ∉ l) (hQP : ∀ l, Q l → P l) (h : Blanked P s t) (h' : Blanked Q t a) :
    Blanked P s a := by
  induction h' generalizing s with
  | nil => exact h
  | @keep c t a _ ih =>
    obtain ⟨u, v, rfl, hu, hv⟩ := split (a := [c]) h
    exact append hu (ih hv)
  | @blank l t a hl _ ih =>
    obtain ⟨u, v, rfl, hu, hv⟩ := h.split
    obtain rfl := hu.eq_of_not_mem (hblank l hl)
    exact .blank (hQP u hl) (ih hv)

end Blanked

/-! ### The two scans -/

section scans
variable {s t : List Char}

theorem blanked_blankQuotes (s : List Char) : Blanked IsHidden s (blankQuotes s) := by
  fun_induction blankQuotes s with
  | case1 => exact .nil
  | case2 c s hc r h _ ih =>
    obtain ⟨t, ht, rfl⟩ := afterQuote?_eq_some h
    have hhidden : IsHidden (c :: t ++ [c]) := .quoted (by simpa [IsQuote] using hc) ht
    have hblank := Blanked.blank hhidden ih
    rwa [List.append_assoc, List.singleton_append, List.cons_append] at hblank
  | case3 c s hc h ih => exact .keep ih
  | case4 c s hc ih => exact .keep ih

theorem blanked_blankRadix (b : Bool) (s : List Char) : Blanked IsRadixNumeral s (blankRadix b s) := by
  fun_induction blankRadix b s with
  | case1 b => exact .nil
  | case2 b c s r h _ ih =>
    cases b with
    | true => cases h
    | false =>
      obtain ⟨n, hn, -, hs⟩ := afterRadix?_eq_some_iff.1 h
      rw [hs]
      exact .blank hn ih
  | case3 b c s h ih => exact .keep ih

theorem not_mem_radix (h : IsRadixNumeral t) : ' ' ∉ t := fun hm => absurd (h.not_blank ' ' hm) (by decide)

/-- A text in which no quote occurs twice, so that none of its parts holds a quoted text. -/
def Settled (t : List Char) : Prop := ∀ q, IsQuote q → t.count q ≤ 1

theorem Settled.part (h : Settled t) (hs : s <:+: t) : Settled s :=
  fun q hq => Nat.le_trans (hs.sublist.count_le q) (h q hq)

theorem Settled.blanked {P : List Char → Prop} (h : Settled s) (hs : Blanked P s t) : Settled t := by
  intro q hq
  have hne : q ≠ ' ' := by
    rintro rfl
    exact absurd hq (by decide)
  exact Nat.le_trans (hs.count_le hne) (h q hq)

/-- A quote is left over only if none of its kind comes after it. -/
theorem settled_blankQuotes (s : List Char) : Settled (blankQuotes s) := by
  intro q hq
  have hne : q ≠ ' ' := by
    rintro rfl
    exact absurd hq (by decide)
  fun_induction blankQuotes s with
  | case1 => exact Nat.zero_le _
  | case2 c s _ r _ _ ih => rwa [List.count_cons_of_ne hne.symm]
  | case3 c s _ h ih =>
    by_cases hc : c = q
    · subst hc
      have hnone := List.count_eq_zero_of_not_mem (afterQuote?_eq_none_iff.1 h)
      have hle := (blanked_blankQuotes s).count_le hne
      rw [List.count_cons_self]
      omega
    · rwa [List.count_cons_of_ne hc]
  | case4 c s hc ih =>
    have hcq : c ≠ q := by
      rintro rfl
      exact hc (by simpa [IsQuote] using hq)
    rwa [List.count_cons_of_ne hcq]

theorem blankQuotes_of_settled (h : Settled t) : blankQuotes t = t := by
  induction t with
  | nil => rw [blankQuotes]
  | cons c t ih =>
    have hnone : IsQuote c → afterQuote? c t = none := by
      intro hc
      have hcount := h c hc
      rw [List.count_cons_self] at hcount
      exact afterQuote?_eq_none_iff.2 (List.count_eq_zero.1 (by omega))
    rw [blankQuotes_of_none hnone, ih (h.part (List.suffix_cons c t).isInfix)]

end scans

/-! ### Parts of a text -/

section parts
variable {s t p : List Char}

theorem mem_bracketsFrom {depth : Int} {inside : List Char} (h : t ∈ bracketsFrom depth inside s) :
    t <:+: inside.reverse ++ s := by
  induction s generalizing depth inside with
  | nil => cases h
  | cons c s ih =>
    have hkeep : ∀ d, t ∈ bracketsFrom d (c :: inside) s → t <:+: inside.reverse ++ c :: s := by
      intro d hd
      have hs := ih hd
      rwa [List.reverse_cons, List.append_assoc, List.singleton_append] at hs
    rw [bracketsFrom] at h
    split at h
    · split at h
      · have hs : t <:+: s := ih h
        exact hs.trans ((List.suffix_cons c s).trans (List.suffix_append ..)).isInfix
      · exact hkeep _ h
    · split at h
      · split at h
        · rcases List.mem_cons.1 h with rfl | h
          · exact (List.prefix_append ..).isInfix
          · exact hkeep _ h
        · exact hkeep _ h
      · exact hkeep _ h

theorem mem_brackets (h : t ∈ brackets s) : t <:+: s := mem_bracketsFrom h

theorem exists_splitCommas (quote : Option Char) (depth : Int) (s : List Char) :
    ∃ p ps, splitCommas quote depth s = p :: ps ∧ p <+: s ∧ ∀ t ∈ ps, t <:+: s := by
  induction s generalizing quote depth with
  | nil => exact ⟨[], [], rfl, List.prefix_rfl, by simp⟩
  | cons c s ih =>
    rw [splitCommas]
    generalize (if quote.isSome then depth else _ : Int) = d
    obtain ⟨p, ps, hsplit, hp, hps⟩ := ih (quoteAfter quote c) d
    simp only [hsplit]
    split
    · refine ⟨[], p :: ps, rfl, List.nil_prefix, fun t ht => ?_⟩
      rcases List.mem_cons.1 ht with rfl | ht
      · exact List.infix_cons hp.isInfix
      · exact List.infix_cons (hps t ht)
    · exact ⟨c :: p, ps, rfl, (List.prefix_cons_inj c).2 hp, fun t ht => List.infix_cons (hps t ht)⟩

theorem infix_of_mem_splitCommas {quote : Option Char} {depth : Int} (h : t ∈ splitCommas quote depth s) :
    t <:+: s := by
  obtain ⟨p, ps, hsplit, hp, hps⟩ := exists_splitCommas quote depth s
  rw [hsplit] at h
  rcases List.mem_cons.1 h with rfl | h
  · exact hp.isInfix
  · exact hps t h

theorem trim_part (s : List Char) : trim s <:+: s := by
  obtain ⟨b, a, -, -, hs⟩ := exists_trim s
  exact ⟨b, a, hs.symm⟩

theorem mem_operands (h : t ∈ operands s) : t <:+: s := by
  have hpiece : t ∈ (splitCommas none 0 s).map trim := by
    rw [operands] at h
    split at h
    · cases h
    · exact h
  obtain ⟨x, hx, rfl⟩ := List.mem_map.1 hpiece
  exact (trim_part x).trans (infix_of_mem_splitCommas hx)

/-- The text up to a blank begins with whatever has no blanks. -/
theorem append_of_not_mem {u : List Char} (hu : ' ' ∉ u) (h : u ++ s = p ++ ' ' :: t) :
    ∃ p', p = u ++ p' ∧ s = p' ++ ' ' :: t := by
  rcases List.append_eq_append_iff.1 h with ⟨p', rfl, hs⟩ | ⟨p', rfl, hs⟩
  · exact ⟨p', rfl, hs⟩
  · cases p' with
    | nil => exact ⟨[], by simp, hs.symm⟩
    | cons c p' =>
      obtain ⟨rfl, -⟩ := List.cons.inj hs
      exact absurd (by simp) hu

theorem IsFlatParts.blank_index (h : IsFlatParts s) (hs : s = p ++ ' ' :: t) :
    ∃ a i, p = a ++ '[' :: i ∧ IsUnbracketed i := by
  induction h generalizing p with
  | nil => simp at hs
  | @member g s hg _ ih =>
    have hblank : ' ' ∉ '.' :: g := by
      rintro (_ | ⟨_, hm⟩)
      exact absurd (hg.parts ' ' hm) (by decide)
    obtain ⟨p', rfl, hs'⟩ := append_of_not_mem hblank hs
    obtain ⟨a, i, rfl, hi⟩ := ih hs'
    exact ⟨'.' :: g ++ a, i, (List.append_assoc ..).symm, hi⟩
  | @index x s hx _ ih =>
    rcases List.append_eq_append_iff.1 hs with ⟨p', rfl, hs'⟩ | ⟨y, hy, -⟩
    · -- the blank stands behind this index
      obtain ⟨p'', rfl, hs''⟩ := append_of_not_mem (u := [']']) (by decide) hs'
      obtain ⟨a, i, rfl, hi⟩ := ih hs''
      exact ⟨'[' :: x ++ ']' :: a, i, by simp, hi⟩
    · cases p with
      | nil =>
        cases y with
        | nil => cases hy
        | cons c y =>
          obtain ⟨rfl, -⟩ := List.cons.inj hy
          cases hs
      | cons c p =>
        obtain ⟨rfl, rfl⟩ := List.cons.inj hy
        exact ⟨[], p, rfl, fun d hd => hx d (List.mem_append_left y hd)⟩

/-- A blank in a path stands in one of its indices. -/
theorem IsFlatPath.blank_index (h : IsFlatPath s) (hs : s = p ++ ' ' :: t) :
    ∃ a i, p = a ++ '[' :: i ∧ IsUnbracketed i := by
  obtain ⟨hu, hparts⟩ := h
  rename_i u q
  have hblank : ' ' ∉ u := hu.not_mem (by decide) (by decide)
  obtain ⟨p', rfl, hs'⟩ := append_of_not_mem hblank hs
  obtain ⟨a, i, rfl, hi⟩ := hparts.blank_index hs'
  exact ⟨u ++ a, i, (List.append_assoc ..).symm, hi⟩

end parts

/-! ### Names come from the operand -/

/-- A part of an operand, or one with blanks for some literals, in which case all quoted texts are blanked out. -/
structure Recorded (operand t : List Char) : Prop where
  source : ∃ w, w <:+: operand ∧ Blanked IsHidden w t ∧ (w = t ∨ Settled t)

namespace Recorded
variable {operand s t : List Char}

theorem of_infix (h : t <:+: operand) : Recorded operand t := ⟨t, h, .refl t, .inl rfl⟩

theorem part (h : Recorded operand t) (hs : s <:+: t) : Recorded operand s := by
  obtain ⟨w, hw, hblanked, rfl | hsettled⟩ := h.source
  · exact of_infix (hs.trans hw)
  · obtain ⟨v, hv, hblanked⟩ := hblanked.of_infix hs
    exact ⟨v, hv.trans hw, hblanked, .inr (hsettled.part hs)⟩

/-- Blanking out literals once more only does at more places what was done before. -/
theorem blanked (h : Recorded operand t) : Recorded operand (blankRadix false (blankQuotes t)) := by
  obtain ⟨w, hw, hblanked, hcase⟩ := h.source
  have hquotes : Blanked IsHidden w (blankQuotes t) := by
    rcases hcase with rfl | hsettled
    · exact blanked_blankQuotes w
    · rwa [blankQuotes_of_settled hsettled]
  have hradix := blanked_blankRadix false (blankQuotes t)
  exact ⟨w, hw, hquotes.trans (fun _ => not_mem_radix) (fun _ => .radix) hradix,
    .inr ((settled_blankQuotes t).blanked hradix)⟩

theorem expressionTags (h : Recorded operand s) (ht : t ∈ expressionTags s) : Recorded operand t ∧ IsFlatPath t := by
  obtain ⟨hpath, hinfix⟩ := mem_pathsFrom (List.mem_of_mem_filter ht)
  exact ⟨h.blanked.part hinfix, hpath⟩

theorem indexTagsTo {depth : Nat} (h : Recorded operand s) (ht : t ∈ indexTagsTo depth s) :
    Recorded operand t ∧ IsFlatPath t := by
  induction depth generalizing s with
  | zero => cases ht
  | succ depth ih =>
    rw [Ladder.indexTagsTo] at ht
    obtain ⟨p, hp, ht⟩ := List.mem_flatMap.1 ht
    obtain ⟨i, hi, hp⟩ := List.mem_flatMap.1 (List.mem_of_mem_filter hp)
    have hpart := h.part ((mem_operands hp).trans (mem_brackets hi))
    obtain ⟨n, hn, ht⟩ := List.mem_flatMap.1 ht
    have hname := hpart.expressionTags hn
    rcases List.mem_cons.1 ht with rfl | ht
    · exact hname
    · exact ih hname.1 ht

theorem indexTags (h : Recorded operand s) (ht : t ∈ indexTags s) : Recorded operand t ∧ IsFlatPath t :=
  h.indexTagsTo ht

/-- A recorded path stands in the operand, unless a literal stands in an index there. -/
theorem verbatim (h : Recorded operand t) (hpath : IsFlatPath t) :
    t <:+: operand ∨ ∃ i l, IsUnbracketed i ∧ IsHidden l ∧ '[' :: (i ++ l) <:+: operand := by
  obtain ⟨w, hw, hblanked, -⟩ := h.source
  rcases hblanked.eq_or_first with rfl | ⟨p, l, s', t', hl, rfl, ht⟩
  · exact .inl hw
  · obtain ⟨a, i, rfl, hi⟩ := hpath.blank_index ht
    exact .inr ⟨i, l, hi, hl, .trans ⟨a, s', by simp⟩ hw⟩

end Recorded

theorem mem_classify {operand t : List Char} {role : Role} {u : Usage} (h : (t, u) ∈ classify operand role) :
    Recorded operand t ∧ (IsFlatPath t ∨ t <:+: operand) := by
  have htrim := Recorded.of_infix (trim_part operand)
  rw [classify] at h
  split at h
  · cases h
  · split at h
    · cases h
    · split at h
      · rcases List.mem_cons.1 h with he | h
        · obtain ⟨rfl, -⟩ := Prod.mk.inj he
          exact ⟨htrim, .inr (trim_part operand)⟩
        · obtain ⟨n, hn, he⟩ := List.mem_map.1 h
          obtain ⟨rfl, -⟩ := Prod.mk.inj he
          exact (htrim.indexTags hn).imp_right .inl
      · obtain ⟨n, hn, he⟩ := List.mem_map.1 h
        obtain ⟨rfl, -⟩ := Prod.mk.inj he
        obtain ⟨m, hm, hn⟩ := List.mem_flatMap.1 hn
        have hname := htrim.expressionTags hm
        rcases List.mem_cons.1 hn with rfl | hn
        · exact hname.imp_right .inl
        · exact (hname.1.indexTags hn).imp_right .inl

/-- What is recorded is a part of the operand with blanks for some of its literals, and without such blanks if no
literal stands in an index. -/
theorem recorded_names {operand t : List Char} {role : Role} {u : Usage} (h : (t, u) ∈ classify operand role) :
    (∃ w, w <:+: operand ∧ Blanked IsHidden w t) ∧
    (t <:+: operand ∨ ∃ i l, IsUnbracketed i ∧ IsHidden l ∧ '[' :: (i ++ l) <:+: operand) := by
  obtain ⟨hrecorded, hpath⟩ := mem_classify h
  obtain ⟨w, hw, hblanked, -⟩ := hrecorded.source
  exact ⟨⟨w, hw, hblanked⟩, hpath.elim hrecorded.verbatim .inl⟩

/-- The index of the only name has lost its numeral. -/
theorem recorded_blank :
    classify "Data[16#F]+1".toList .expression = [("Data[ ]".toList, .read)] ∧
    ¬ "Data[ ]".toList <:+: "Data[16#F]+1".toList := by
  refine ⟨by decide +kernel, fun h => ?_⟩
  have hblank : ' ' ∈ "Data[16#F]+1".toList := h.subset (by decide)
  exact absurd hblank (by decide)

theorem recorded_names_numeral :
    ("Data[ ]".toList, Usage.read) ∈ classify "Data[16#F]+1".toList .expression ∧
    (∃ w, w <:+: "Data[16#F]+1".toList ∧ Blanked IsHidden w "Data[ ]".toList) ∧
    ("Data[ ]".toList <:+: "Data[16#F]+1".toList ∨ ∃ i l, IsUnbracketed i ∧ IsHidden l ∧
      '[' :: (i ++ l) <:+: "Data[16#F]+1".toList) := by
  have hnames : classify "Data[16#F]+1".toList .expression = [("Data[ ]".toList, .read)] := by
    decide +kernel
  have hmem : ("Data[ ]".toList, Usage.read) ∈ classify "Data[16#F]+1".toList .expression := by
    rw [hnames]
    exact List.mem_singleton_self _
  exact ⟨hmem, recorded_names hmem⟩

end LadderAtlas.Ladder
