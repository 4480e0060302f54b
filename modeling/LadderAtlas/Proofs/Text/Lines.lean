import LadderAtlas.Text.Trim
import Mathlib.Data.List.Basic
import Mathlib.Data.List.TakeWhile

/-!
# Lines of a text

A line that is neither blank nor surrounded by blanks is told by its first and its last character
(`isTrimmed_iff`), so joining such lines gives such a text again. The first lines of a text, with the breaks
after them, are a text whose lines are the first ones (`lines_firstLines`).
-/

namespace LadderAtlas.Text

/-! ### Trimmed texts -/

/-- A text that is not blank and has no blanks at its ends. -/
structure IsTrimmed (s : List Char) : Prop where
  ne_nil : s ≠ []
  trim_eq : trim s = s

instance (s : List Char) : Decidable (IsTrimmed s) :=
  decidable_of_iff (s ≠ [] ∧ trim s = s) ⟨fun h => ⟨h.1, h.2⟩, fun h => ⟨h.1, h.2⟩⟩

theorem trimLeft_eq_self_iff (s : List Char) : trimLeft s = s ↔ ∀ c, s.head? = some c → isBlank c = false := by
  cases s with
  | nil => simp [trimLeft]
  | cons c s =>
    simp only [trimLeft, List.head?_cons, Option.some.injEq, forall_eq']
    cases h : isBlank c with
    | false => simp [h]
    | true =>
      have hlength : (s.dropWhile isBlank).length ≤ s.length := (List.dropWhile_sublist _).length_le
      refine iff_of_false (fun he => ?_) (by simp)
      rw [List.dropWhile_cons_of_pos h] at he
      rw [he, List.length_cons] at hlength
      omega

theorem trimRight_eq_self_iff (s : List Char) : trimRight s = s ↔ ∀ c, s.getLast? = some c → isBlank c = false := by
  have h := trimLeft_eq_self_iff s.reverse
  rw [List.head?_reverse] at h
  rw [← h, trimRight, List.reverse_eq_iff]
  rfl

theorem trim_eq_self_iff (s : List Char) : trim s = s ↔ trimLeft s = s ∧ trimRight s = s := by
  constructor
  · intro h
    have hleft : (trimLeft s).length ≤ s.length := (List.dropWhile_sublist _).length_le
    have hright : (trimRight (trimLeft s)).length ≤ (trimLeft s).length := by
      rw [trimRight, List.length_reverse]
      exact Nat.le_trans (List.dropWhile_sublist _).length_le (Nat.le_of_eq List.length_reverse)
    have hlength : s.length ≤ (trimLeft s).length := by
      have hs := congrArg List.length h
      rw [trim] at hs
      omega
    have hsuffix : trimLeft s <:+ s := List.dropWhile_suffix _
    have hs : trimLeft s = s := hsuffix.eq_of_length_le hlength
    rw [trim, hs] at h
    exact ⟨hs, h⟩
  · rintro ⟨hleft, hright⟩
    rw [trim, hleft, hright]

/-- Nothing is left of blank texts alone. -/
theorem trim_eq_nil_iff (s : List Char) : trim s = [] ↔ ∀ c ∈ s, isBlank c = true := by
  rw [trim, trimRight, trimLeft, List.reverse_eq_nil_iff, List.dropWhile_eq_nil_iff]
  simp only [List.mem_reverse]
  induction s with
  | nil => exact Iff.rfl
  | cons c s ih =>
    cases hc : isBlank c with
    | true => rw [List.dropWhile_cons_of_pos hc, ih, List.forall_mem_cons, and_iff_right hc]
    | false => rw [List.dropWhile_cons_of_neg (by simp [hc])]

theorem isTrimmed_iff (s : List Char) : IsTrimmed s ↔ s ≠ [] ∧ (∀ c, s.head? = some c → isBlank c = false) ∧
    ∀ c, s.getLast? = some c → isBlank c = false := by
  rw [← trimLeft_eq_self_iff, ← trimRight_eq_self_iff, ← trim_eq_self_iff]
  exact ⟨fun h => ⟨h.1, h.2⟩, fun h => ⟨h.1, h.2⟩⟩

namespace IsTrimmed
variable {s t : List Char}

/-- Between trimmed texts anything may stand. -/
theorem append (hs : IsTrimmed s) (ht : IsTrimmed t) (m : List Char) : IsTrimmed (s ++ m ++ t) := by
  obtain ⟨hs, hhead, -⟩ := (isTrimmed_iff s).1 hs
  obtain ⟨ht, -, hlast⟩ := (isTrimmed_iff t).1 ht
  refine (isTrimmed_iff _).2 ⟨by simp [hs], ?_, ?_⟩
  · rw [List.append_assoc, List.head?_append_of_ne_nil s hs]
    exact hhead
  · rw [List.getLast?_append_of_ne_nil _ ht]
    exact hlast

theorem trimRight_eq (hs : IsTrimmed s) : trimRight s = s := ((trim_eq_self_iff s).1 hs.trim_eq).2

theorem of_solid {c : Char} (hc : isBlank c = false) : IsTrimmed [c] :=
  (isTrimmed_iff [c]).2 ⟨by simp, by simp [hc], by simp [hc]⟩

end IsTrimmed

/-! ### Joined lines -/

theorem joined_cons {sep s : List Char} {l : List (List Char)} (hl : l ≠ []) :
    joined sep (s :: l) = s ++ sep ++ joined sep l := by
  cases l with
  | nil => exact absurd rfl hl
  | cons t l => rfl

/-- What is joined first stands first. -/
theorem prefix_joined (sep : List Char) (l m : List (List Char)) : joined sep l <+: joined sep (l ++ m) := by
  induction l with
  | nil => exact List.nil_prefix
  | cons s l ih =>
    by_cases hl : l = []
    · subst hl
      cases m with
      | nil => exact List.prefix_refl _
      | cons t m =>
        show s <+: s ++ sep ++ joined sep (t :: m)
        rw [List.append_assoc]
        exact List.prefix_append _ _
    · rw [List.cons_append, joined_cons hl, joined_cons (by simp [hl])]
      exact (List.prefix_append_right_inj _).2 ih

/-- What is added to the last text comes last. -/
theorem joined_snoc_append (sep : List Char) (l : List (List Char)) (s t : List Char) :
    joined sep (l ++ [s ++ t]) = joined sep (l ++ [s]) ++ t := by
  induction l with
  | nil => rfl
  | cons u l ih =>
    rw [List.cons_append, List.cons_append, joined_cons (by simp), joined_cons (by simp), ih, List.append_assoc _ _ t]

/-- Two texts with a separator between them count as one. -/
theorem joined_cons_cons (sep s t : List Char) (l : List (List Char)) :
    joined sep (s :: t :: l) = joined sep ((s ++ sep ++ t) :: l) := by
  cases l with
  | nil => rfl
  | cons u l => simp [joined]

theorem mem_joined {sep : List Char} {l : List (List Char)} {c : Char} (h : c ∈ joined sep l) :
    c ∈ sep ∨ ∃ s ∈ l, c ∈ s := by
  induction l with
  | nil => exact absurd h List.not_mem_nil
  | cons s l ih =>
    by_cases hl : l = []
    · subst hl
      exact .inr ⟨s, by simp, h⟩
    · rw [joined_cons hl, List.mem_append, List.mem_append] at h
      rcases h with (hc | hc) | hc
      · exact .inr ⟨s, by simp, hc⟩
      · exact .inl hc
      · exact (ih hc).imp_right fun ⟨t, ht, hct⟩ => ⟨t, List.mem_cons_of_mem _ ht, hct⟩

theorem joined_ne_nil {c : Char} {l : List (List Char)} (hl : l ≠ []) (h : l ≠ [[]]) : joined [c] l ≠ [] := by
  obtain ⟨s, l, rfl⟩ := List.exists_cons_of_ne_nil hl
  cases l with
  | nil => exact fun he => h (congrArg ([·]) he)
  | cons => simp [joined_cons]

theorem IsTrimmed.joined {sep : List Char} {l : List (List Char)} (hl : l ≠ []) (h : ∀ s ∈ l, IsTrimmed s) :
    IsTrimmed (Text.joined sep l) := by
  induction l with
  | nil => exact absurd rfl hl
  | cons s l ih =>
    have hs := h s (by simp)
    by_cases hl : l = []
    · subst hl
      exact hs
    · rw [joined_cons hl]
      exact hs.append (ih hl fun t ht => h t (List.mem_cons_of_mem _ ht)) sep

/-! ### Split texts -/

theorem splitOn_append_cons {p : Char → Bool} {c : Char} {s : List Char} (h : ∀ d ∈ s, p d = false) (hc : p c = true)
    (t : List Char) : splitOn p (s ++ c :: t) = s :: splitOn p t := by
  induction s with
  | nil => simp [splitOn, hc]
  | cons d s ih => simp [splitOn, h d (by simp), ih fun e he => h e (List.mem_cons_of_mem _ he)]

theorem splitOn_eq_self {p : Char → Bool} {s : List Char} (h : ∀ d ∈ s, p d = false) : splitOn p s = [s] := by
  induction s with
  | nil => rfl
  | cons d s ih => simp [splitOn, h d (by simp), ih fun e he => h e (List.mem_cons_of_mem _ he)]

/-- Splitting undoes joining if the separator stands nowhere else. -/
theorem splitOn_joined {c : Char} {l : List (List Char)} (hl : l ≠ []) (h : ∀ s ∈ l, c ∉ s) :
    splitOn (· = c) (joined [c] l) = l := by
  induction l with
  | nil => exact absurd rfl hl
  | cons s l ih =>
    have hs : ∀ d ∈ s, decide (d = c) = false := fun d hd => decide_eq_false fun he => h s (by simp) (he ▸ hd)
    by_cases hl : l = []
    · subst hl
      exact splitOn_eq_self hs
    · rw [joined_cons hl, List.append_assoc, List.singleton_append, splitOn_append_cons hs (decide_eq_true rfl),
        ih hl fun t ht => h t (List.mem_cons_of_mem _ ht)]

/-! ### First lines -/

/-- The first lines of a text, with the breaks after them. -/
def firstLines : Nat → List Char → List Char
  | 0, _ => []
  | _, [] => []
  | n + 1, '\r' :: '\n' :: s => '\r' :: '\n' :: firstLines n s
  | n + 1, c :: s => if isLineBreak c then c :: firstLines n s else c :: firstLines (n + 1) s

theorem prefix_firstLines (n : Nat) (s : List Char) : firstLines n s <+: s := by
  fun_induction firstLines n s with
  | case1 => exact List.nil_prefix
  | case2 => exact List.nil_prefix
  | case3 n s ih => exact (List.prefix_cons_inj _).2 ((List.prefix_cons_inj _).2 ih)
  | case4 n c s _ _ ih => exact (List.prefix_cons_inj _).2 ih
  | case5 n c s _ _ ih => exact (List.prefix_cons_inj _).2 ih

theorem lines_return (s : List Char) : lines ('\r' :: '\n' :: s) = [] :: lines s := rfl

theorem lines_break {c : Char} {s : List Char} (hc : isLineBreak c = true) (hs : c = '\r' → s.head? ≠ some '\n') :
    lines (c :: s) = [] :: lines s := by
  rw [lines]
  · rw [if_pos hc]
  · rintro t rfl rfl
    exact hs rfl rfl

/-- A character that is no break belongs to the first line after it, if there is one. -/
theorem lines_char {c : Char} (hc : isLineBreak c = false) (s : List Char) :
    lines (c :: s) = (c :: (lines s).headD []) :: (lines s).tail := by
  rw [lines]
  · rw [if_neg (by simp [hc])]
    cases lines s <;> rfl
  · rintro t rfl -
    exact absurd hc (by decide)

theorem lines_firstLines (n : Nat) (s : List Char) : lines (firstLines n s) = (lines s).take n := by
  fun_induction firstLines n s with
  | case1 => rfl
  | case2 n => simp [lines]
  | case3 n s ih => rw [lines_return, lines_return, ih, List.take_succ_cons]
  | case4 n c s hreturn hc ih =>
    have hs : c = '\r' → s.head? ≠ some '\n' := by
      intro hr hn
      obtain ⟨t, rfl⟩ := List.head?_eq_some_iff.1 hn
      exact hreturn t hr rfl
    have hfirst : c = '\r' → (firstLines n s).head? ≠ some '\n' := by
      intro hr hn
      obtain ⟨u, hu⟩ := List.head?_eq_some_iff.1 hn
      obtain ⟨t, ht⟩ := prefix_firstLines n s
      rw [hu] at ht
      exact hs hr (by rw [← ht]; rfl)
    rw [lines_break hc hs, lines_break hc hfirst, ih, List.take_succ_cons]
  | case5 n c s _ hc ih =>
    have hc : isLineBreak c = false := by simpa using hc
    rw [lines_char hc, lines_char hc, ih, List.take_succ_cons]
    cases lines s <;> simp

end LadderAtlas.Text
