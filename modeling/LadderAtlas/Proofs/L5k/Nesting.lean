import LadderAtlas.Proofs.L5k.Statements
import LadderAtlas.Proofs.L5k.Names
import LadderAtlas.Proofs.Text.Lines

/-!
# Nested texts in an L5K file

A text is `Nested` if its double quotes are closed and its parentheses and brackets, quoted ones aside, are closed in
order. Whatever counts open groups from left to right comes out of such a text with the count it went in with
(`Counts.nested`). That is said once, for the splitting at commas (`counts_splitAtDepth`), for the search for a closing
parenthesis (`counts_closeGroup`) and for the depth of a header (`counts_depthFrom`). So nested texts with commas
between them come apart at these (`splitTop_joined`), a group ends where it was closed (`firstGroup_nested`), and
inside of it the depth is positive (`le_depthFrom_prefix`).
-/

namespace LadderAtlas.L5k
open Text
open Ladder (IsBlankText passed passed_passed glue glue_glue glue_nil)

/-- What may stand between two quotes: none that is bare, and a dollar sign takes the next character with it. -/
inductive IsQuotable : List Char → Prop
  | nil : IsQuotable []
  | plain {c : Char} {s : List Char} (hc : c ∉ ['$', '"']) (hs : IsQuotable s) : IsQuotable (c :: s)
  | escape {c : Char} {s : List Char} (hs : IsQuotable s) : IsQuotable ('$' :: c :: s)

/-- The characters that open or close something. -/
def groupMarks : List Char := ['"', '(', ')', '[', ']']

/-- Texts whose quotes are closed and whose parentheses and brackets, quoted ones aside, are closed in order. Commas
outside of all of them are admitted if `inside`. -/
inductive Nested : (inside : Bool) → List Char → Prop
  | nil {inside : Bool} : Nested inside []
  | plain {inside : Bool} {c : Char} {s : List Char} (hc : c ∉ groupMarks) (hcomma : c = ',' → inside = true)
      (hs : Nested inside s) : Nested inside (c :: s)
  | quoted {inside : Bool} {t s : List Char} (ht : IsQuotable t) (hs : Nested inside s) :
      Nested inside ('"' :: t ++ '"' :: s)
  | parens {inside : Bool} {t s : List Char} (ht : Nested true t) (hs : Nested inside s) :
      Nested inside ('(' :: t ++ ')' :: s)
  | brackets {inside : Bool} {t s : List Char} (ht : Nested true t) (hs : Nested inside s) :
      Nested inside ('[' :: t ++ ']' :: s)

theorem IsQuotable.append {s t : List Char} (hs : IsQuotable s) (ht : IsQuotable t) : IsQuotable (s ++ t) := by
  induction hs with
  | nil => exact ht
  | plain hc _ ih => exact .plain hc ih
  | escape _ ih => exact .escape ih

namespace Nested
variable {inside : Bool} {s t : List Char}

theorem mono (h : Nested false s) : Nested true s := by
  generalize hb : false = b at h
  induction h with
  | nil => exact .nil
  | plain hc _ _ ih => exact .plain hc (fun _ => rfl) (ih hb)
  | quoted ht _ ih => exact .quoted ht (ih hb)
  | parens ht _ _ ih => exact .parens ht (ih hb)
  | brackets ht _ _ ih => exact .brackets ht (ih hb)

theorem append (hs : Nested inside s) (ht : Nested inside t) : Nested inside (s ++ t) := by
  induction hs with
  | nil => exact ht
  | plain hc hcomma _ ih => exact .plain hc hcomma (ih ht)
  | quoted hbody _ ih =>
    rw [List.append_assoc]
    exact .quoted hbody (ih ht)
  | parens hbody _ _ ih =>
    rw [List.append_assoc]
    exact .parens hbody (ih ht)
  | brackets hbody _ _ ih =>
    rw [List.append_assoc]
    exact .brackets hbody (ih ht)

theorem of_plain (h : Avoids (',' :: groupMarks) s) : Nested inside s := by
  induction s with
  | nil => exact .nil
  | cons c s ih =>
    have hc := h c (by simp)
    rw [List.mem_cons, not_or] at hc
    exact .plain hc.2 (fun he => absurd he hc.1) (ih fun d hd => h d (List.mem_cons_of_mem _ hd))

theorem of_blank (h : IsBlankText s) : Nested inside s := of_plain (.of_blank (by decide) h)

/-- Between nested texts commas may stand, if they may stand around. -/
theorem joined {l : List (List Char)} (h : ∀ s ∈ l, Nested false s) : Nested true (Text.joined [','] l) := by
  induction l with
  | nil => exact .nil
  | cons s l ih =>
    have hs := (h s (by simp)).mono
    cases l with
    | nil => exact hs
    | cons t l =>
      have hcomma : Nested true [','] := .plain (by decide) (fun _ => rfl) .nil
      exact (hs.append hcomma).append (ih fun u hu => h u (List.mem_cons_of_mem _ hu))

end Nested

/-! ### Marks of quoted stretches -/

theorem shadeFrom_quotable {t : List Char} (h : IsQuotable t) (s : List Char) :
    shadeFrom true (t ++ '"' :: s) = t.map (·, true) ++ ('"', true) :: shade s := by
  induction h with
  | nil => exact shadeFrom_inside (by decide) s
  | plain hc _ ih =>
    simp only [List.mem_cons, List.not_mem_nil, or_false, not_or] at hc
    rw [List.cons_append, shadeFrom_inside hc.1, decide_eq_true hc.2, ih]
    rfl
  | escape _ ih =>
    rw [List.cons_append, List.cons_append, shadeFrom_escape, ih]
    rfl

theorem shade_cons {c : Char} (hc : c ≠ '"') (s : List Char) : shade (c :: s) = (c, false) :: shade s := by
  rw [shade, shadeFrom_outside, decide_eq_false hc]
  rfl

theorem shade_quoted {t : List Char} (h : IsQuotable t) (s : List Char) :
    shade ('"' :: t ++ '"' :: s) = (('"' :: t ++ ['"']).map (·, true)) ++ shade s := by
  rw [List.cons_append, shade, shadeFrom_outside, decide_eq_true rfl, shadeFrom_quotable h]
  simp

theorem shade_append {t : List Char} (h : '"' ∉ t) (s : List Char) : shade (t ++ s) = t.map (·, false) ++ shade s := by
  induction t with
  | nil => rfl
  | cons c t ih =>
    rw [List.mem_cons, not_or] at h
    rw [List.cons_append, shade_cons (Ne.symm h.1), ih h.2]
    rfl

/-! ### Scans that count groups -/

/-- A scan of a marked text with a count of open groups: `paren` and `bracket` are the counts inside a group, and
`put` adds what was passed over to the result. Where the count is `deep`, commas are passed over too. -/
structure Counts {σ β : Type} (scan : σ → Shaded → β) (put : List Char → β → β) (paren bracket : σ → σ)
    (deep : σ → Prop) : Prop where
  put_nil : ∀ d r, put [] (scan d r) = scan d r
  put_put : ∀ s t b, put s (put t b) = put (s ++ t) b
  quoted : ∀ d c r, scan d ((c, true) :: r) = put [c] (scan d r)
  plain : ∀ d c r, c ∉ groupMarks → (c = ',' → deep d) → scan d ((c, false) :: r) = put [c] (scan d r)
  parens : ∀ d r, scan d (('(', false) :: r) = put ['('] (scan (paren d) r) ∧
    scan (paren d) ((')', false) :: r) = put [')'] (scan d r)
  brackets : ∀ d r, scan d (('[', false) :: r) = put ['['] (scan (bracket d) r) ∧
    scan (bracket d) ((']', false) :: r) = put [']'] (scan d r)
  deep_paren : ∀ d, deep (paren d)
  deep_bracket : ∀ d, deep (bracket d)

namespace Counts
variable {σ β : Type} {scan : σ → Shaded → β} {put : List Char → β → β} {paren bracket : σ → σ} {deep : σ → Prop}

theorem stretch (h : Counts scan put paren bracket deep) (d : σ) (t : List Char) (r : Shaded) :
    scan d (t.map (·, true) ++ r) = put t (scan d r) := by
  induction t with
  | nil => exact (h.put_nil d r).symm
  | cons c t ih =>
    rw [List.map_cons, List.cons_append, h.quoted, ih, h.put_put]
    rfl

/-- A nested text is passed over. -/
theorem nested (h : Counts scan put paren bracket deep) {inside : Bool} {s : List Char} (hs : Nested inside s) {d : σ}
    (hd : inside = true → deep d) (rest : List Char) : scan d (shade (s ++ rest)) = put s (scan d (shade rest)) := by
  induction hs generalizing d rest with
  | nil => exact (h.put_nil d _).symm
  | @plain _ c s hc hcomma _ ih =>
    have hquote : c ≠ '"' := fun he => hc (by simp [he, groupMarks])
    rw [List.cons_append, shade_cons hquote, h.plain d c _ hc fun he => hd (hcomma he), ih hd, h.put_put]
    rfl
  | @quoted _ t s ht _ ih =>
    have htext : '"' :: t ++ '"' :: s ++ rest = '"' :: t ++ '"' :: (s ++ rest) := by simp
    rw [htext, shade_quoted ht, h.stretch, ih hd, h.put_put]
    simp
  | @parens _ t s _ _ iht ihs =>
    rw [List.append_assoc, List.cons_append, List.cons_append, shade_cons (by decide), (h.parens d _).1,
      iht fun _ => h.deep_paren d, shade_cons (by decide), (h.parens d _).2, ihs hd, h.put_put, h.put_put, h.put_put]
    simp
  | @brackets _ t s _ _ iht ihs =>
    rw [List.append_assoc, List.cons_append, List.cons_append, shade_cons (by decide), (h.brackets d _).1,
      iht fun _ => h.deep_bracket d, shade_cons (by decide), (h.brackets d _).2, ihs hd, h.put_put, h.put_put,
      h.put_put]
    simp

end Counts

/-! ### Splitting at commas -/

theorem splitAtDepth_glue {sep : Char} {depth : Nat} {c : Char} {quoted : Bool}
    (hcut : ¬ (quoted = false ∧ c = sep ∧ depth = 0)) (s : Shaded) :
    splitAtDepth sep depth ((c, quoted) :: s) = glue [c] (splitAtDepth sep (depthAfter depth c quoted) s) := by
  obtain ⟨p, ps, hs⟩ := List.exists_cons_of_ne_nil (splitAtDepth_ne_nil sep (depthAfter depth c quoted) s)
  have hcut : (!quoted && decide (c = sep) && decide (depth = 0)) = false := by
    rw [← Bool.not_eq_true]
    simpa [and_assoc] using hcut
  rw [splitAtDepth_cons, hs]
  simp only [hcut, Bool.false_eq_true, if_false]
  rfl

theorem counts_splitAtDepth : Counts (splitAtDepth ',') glue (· + 1) (· + 1) (0 < ·) where
  put_nil _ _ := glue_nil (splitAtDepth_ne_nil _ _ _)
  put_put := glue_glue
  quoted _ _ r := splitAtDepth_glue (by simp) r
  plain d c r hc hcomma := by
    simp only [groupMarks, List.mem_cons, List.not_mem_nil, or_false, not_or] at hc
    have hdepth : depthAfter d c false = d := by simp [depthAfter, hc]
    rw [splitAtDepth_glue, hdepth]
    rintro ⟨-, rfl, rfl⟩
    exact absurd (hcomma rfl) (Nat.lt_irrefl 0)
  parens d r := ⟨splitAtDepth_glue (by simp) r, splitAtDepth_glue (by simp) r⟩
  brackets d r := ⟨splitAtDepth_glue (by simp) r, splitAtDepth_glue (by simp) r⟩
  deep_paren := Nat.succ_pos
  deep_bracket := Nat.succ_pos

theorem splitTop_comma (s : List Char) : splitTop ',' (',' :: s) = [] :: splitTop ',' s := by
  obtain ⟨p, ps, hs⟩ := List.exists_cons_of_ne_nil (splitAtDepth_ne_nil ',' 0 (shade s))
  rw [splitTop, shade_cons (by decide), splitAtDepth_cons, show depthAfter 0 ',' false = 0 from rfl, splitTop, hs]
  rfl

/-- Nested texts with commas between them come apart at these. -/
theorem splitTop_joined {l : List (List Char)} (hl : l ≠ []) (h : ∀ s ∈ l, Nested false s) :
    splitTop ',' (joined [','] l) = l := by
  induction l with
  | nil => exact absurd rfl hl
  | cons s l ih =>
    have hs : ∀ rest, splitTop ',' (s ++ rest) = glue s (splitTop ',' rest) :=
      counts_splitAtDepth.nested (h s (by simp)) (by simp)
    cases l with
    | nil =>
      have hnil := hs []
      rw [List.append_nil] at hnil
      rw [joined, hnil]
      simp [splitTop, shade, shadeFrom, splitAtDepth, glue]
    | cons t l =>
      rw [joined_cons (by simp), List.append_assoc, List.singleton_append, hs, splitTop_comma,
        ih (by simp) fun u hu => h u (List.mem_cons_of_mem _ hu)]
      simp [glue]

/-! ### Groups in parentheses -/

theorem closeGroup_cons {c : Char} {quoted : Bool} (hc : ¬ (quoted = false ∧ c = ')')) (depth : Nat) (s : Shaded) :
    closeGroup depth ((c, quoted) :: s) =
      (closeGroup (if quoted = false ∧ c = '(' then depth + 1 else depth) s).map (passed [c]) := by
  rw [closeGroup.eq_def]
  simp only [Bool.and_eq_true, Bool.not_eq_true', decide_eq_true_eq, if_neg hc]
  rfl

theorem counts_closeGroup :
    Counts closeGroup (fun s => Option.map (passed s)) (· + 1) id fun _ => True where
  put_nil _ _ := Option.map_id'
  put_put s t b := by
    rw [Option.map_map]
    exact congrArg (Option.map · b) (funext (passed_passed s t))
  quoted d c r := by rw [closeGroup_cons (by simp), if_neg (by simp)]
  plain d c r hc _ := by
    simp only [groupMarks, List.mem_cons, List.not_mem_nil, or_false, not_or] at hc
    rw [closeGroup_cons (by simp [hc]), if_neg (by simp [hc])]
  parens d r := ⟨by rw [closeGroup_cons (by simp), if_pos (by simp)], by rw [closeGroup]; rfl⟩
  brackets d r := ⟨by rw [closeGroup_cons (by simp), if_neg (by simp)]; rfl,
    by rw [id, closeGroup_cons (by simp), if_neg (by simp)]⟩
  deep_paren _ := trivial
  deep_bracket _ := trivial

/-- The first group of a text begins with the first parenthesis and ends with the one that closes it. -/
theorem firstGroup_nested {before inside : List Char} (hbefore : Avoids ['"', '('] before)
    (hinside : Nested true inside) (after : List Char) :
    firstGroup (before ++ '(' :: (inside ++ ')' :: after)) = some ⟨before, inside, after⟩ := by
  have hquote : '"' ∉ before := fun hm => hbefore _ hm (by simp)
  have hspan : (shade (before ++ '(' :: (inside ++ ')' :: after))).span
      (fun p : Char × Bool => !(!p.2 && decide (p.1 = '('))) =
      (before.map (·, false), ('(', false) :: shade (inside ++ ')' :: after)) := by
    rw [shade_append hquote, shade_cons (by decide)]
    refine span_append (fun p hp => ?_) fun p t he => ?_
    · obtain ⟨c, hc, rfl⟩ := List.mem_map.1 hp
      have hparen : c ≠ '(' := fun he => hbefore c hc (by simp [he])
      simp [hparen]
    · rw [← (List.cons.inj he).1]
      rfl
  have hclose : closeGroup 0 (shade (inside ++ ')' :: after)) = some (inside, after) := by
    rw [counts_closeGroup.nested hinside fun _ => trivial, shade_cons (by decide), closeGroup]
    simp [passed, shade_chars]
  simp only [firstGroup, hspan, List.drop_succ_cons, List.drop_zero, hclose]
  simp [Function.comp_def]

/-- Before the first group stands a parenthesis at the earliest. -/
theorem firstGroup_before {s : List Char} {g : Grouped} (h : firstGroup s = some g) :
    ∃ r, s = g.before ++ '(' :: r := by
  rcases hspan : (shade s).span (fun p : Char × Bool => !(!p.2 && decide (p.1 = '('))) with ⟨before, rest⟩
  simp only [firstGroup, hspan] at h
  obtain ⟨⟨inside, after⟩, hclose, rfl⟩ := Option.map_eq_some_iff.1 h
  obtain ⟨hs, -, hopens⟩ := span_spec hspan
  cases rest with
  | nil => cases hclose
  | cons p rest =>
    have hp : p.1 = '(' := by
      have hopens := hopens p rest rfl
      simp only [Bool.not_eq_false', Bool.and_eq_true, decide_eq_true_eq] at hopens
      exact hopens.2
    have hchars := congrArg Shaded.chars hs
    rw [shade_chars, Shaded.chars, List.map_append, List.map_cons, hp] at hchars
    exact ⟨_, hchars⟩

theorem firstGroup_eq_none {s : List Char} (h : '(' ∉ s) : firstGroup s = none := by
  cases hg : firstGroup s with
  | none => rfl
  | some g =>
    obtain ⟨r, hr⟩ := firstGroup_before hg
    exact absurd (by simp [hr]) h

/-! ### Headers -/

/-- How many parentheses are open after a text, when `depth` are before it. -/
def depthFrom (depth : Int) (s : Shaded) : Int :=
  s.foldl (fun d (c, quoted) => if quoted then d else if c = '(' then d + 1 else if c = ')' then d - 1 else d) depth

theorem parenDepth_eq (s : List Char) : parenDepth s = depthFrom 0 (shade s) := rfl

theorem counts_depthFrom : Counts depthFrom (fun _ d => d) (· + 1) id fun _ => True where
  put_nil _ _ := rfl
  put_put _ _ _ := rfl
  quoted _ _ _ := rfl
  plain d c r hc _ := by
    simp only [groupMarks, List.mem_cons, List.not_mem_nil, or_false, not_or] at hc
    simp [depthFrom, hc]
  parens d r := by simp [depthFrom]
  brackets d r := by simp [depthFrom]
  deep_paren _ := trivial
  deep_bracket _ := trivial

theorem depthFrom_nested {inside : Bool} {s : List Char} (h : Nested inside s) (depth : Int) (rest : List Char) :
    depthFrom depth (shade (s ++ rest)) = depthFrom depth (shade rest) :=
  counts_depthFrom.nested h (fun _ => trivial) rest

theorem depthFrom_plain {s : List Char} (h : Avoids ['"', '(', ')'] s) (depth : Int) (rest : List Char) :
    depthFrom depth (shade (s ++ rest)) = depthFrom depth (shade rest) := by
  induction s with
  | nil => rfl
  | cons c s ih =>
    have hc := h c (by simp)
    simp only [List.mem_cons, List.not_mem_nil, or_false, not_or] at hc
    rw [List.cons_append, shade_cons hc.1, ← ih fun d hd => h d (List.mem_cons_of_mem _ hd)]
    simp [depthFrom, hc]

theorem prefix_append_cases {α : Type} {p a b : List α} (h : p <+: a ++ b) : p <+: a ∨ ∃ q, p = a ++ q ∧ q <+: b := by
  rcases List.prefix_or_prefix_of_prefix h (List.prefix_append a b) with hp | ⟨q, rfl⟩
  · exact .inl hp
  · exact .inr ⟨q, rfl, (List.prefix_append_right_inj a).1 h⟩

theorem depthFrom_quotable {t p : List Char} (h : IsQuotable t) (hp : p <+: t) (depth : Int) :
    depthFrom depth (shadeFrom true p) = depth := by
  induction h generalizing p with
  | nil =>
    rw [List.prefix_nil.1 hp]
    rfl
  | plain hc _ ih =>
    simp only [List.mem_cons, List.not_mem_nil, or_false, not_or] at hc
    rcases List.prefix_cons_iff.1 hp with rfl | ⟨q, rfl, hq⟩
    · rfl
    · rw [shadeFrom_inside hc.1, decide_eq_true hc.2]
      exact ih hq
  | escape _ ih =>
    rcases List.prefix_cons_iff.1 hp with rfl | ⟨q, rfl, hq⟩
    · rfl
    · rcases List.prefix_cons_iff.1 hq with rfl | ⟨r, rfl, hr⟩
      · rfl
      · rw [shadeFrom_escape]
        exact ih hr

theorem le_depthFrom_group {o c : Char} {t s p : List Char} {depth inner : Int} (hmarks : o ≠ '"' ∧ c ≠ '"')
    (hgroup : ∀ r, depthFrom depth ((o, false) :: r) = depthFrom inner r ∧
      depthFrom inner ((c, false) :: r) = depthFrom depth r)
    (ht : Nested true t) (hinner : depth ≤ inner) (hpt : ∀ {q}, q <+: t → inner ≤ depthFrom inner (shade q))
    (hps : ∀ {q}, q <+: s → depth ≤ depthFrom depth (shade q)) (hp : p <+: o :: t ++ c :: s) :
    depth ≤ depthFrom depth (shade p) := by
  rcases List.prefix_cons_iff.1 hp with rfl | ⟨q, rfl, hq⟩
  · exact Int.le_refl _
  · rw [shade_cons hmarks.1, (hgroup _).1]
    rcases prefix_append_cases hq with hq | ⟨r, rfl, hr⟩
    · exact Int.le_trans hinner (hpt hq)
    · rw [depthFrom_nested ht]
      rcases List.prefix_cons_iff.1 hr with rfl | ⟨u, rfl, hu⟩
      · exact hinner
      · rw [shade_cons hmarks.2, (hgroup _).2]
        exact hps hu

/-- Nowhere in a nested text is anything closed that was open before it. -/
theorem le_depthFrom_prefix {inside : Bool} {s p : List Char} (h : Nested inside s) (hp : p <+: s) (depth : Int) :
    depth ≤ depthFrom depth (shade p) := by
  induction h generalizing p depth with
  | nil =>
    rw [List.prefix_nil.1 hp]
    exact Int.le_refl _
  | @plain _ c s hc _ _ ih =>
    have hquote : c ≠ '"' := fun he => hc (by simp [he, groupMarks])
    rcases List.prefix_cons_iff.1 hp with rfl | ⟨q, rfl, hq⟩
    · exact Int.le_refl _
    · rw [shade_cons hquote, counts_depthFrom.plain depth c _ hc fun _ => trivial]
      exact ih hq depth
  | @quoted inside t s ht _ ih =>
    rcases List.prefix_cons_iff.1 hp with rfl | ⟨q, rfl, hq⟩
    · exact Int.le_refl _
    · rcases prefix_append_cases hq with hq | ⟨r, rfl, hr⟩
      · exact Int.le_of_eq (depthFrom_quotable ht hq depth).symm
      · rcases List.prefix_cons_iff.1 hr with rfl | ⟨u, rfl, hu⟩
        · rw [List.append_nil]
          exact Int.le_of_eq (depthFrom_quotable ht (List.prefix_refl t) depth).symm
        · have hquoted : Nested inside ('"' :: t ++ ['"']) := .quoted ht .nil
          have hall := depthFrom_nested hquoted depth u
          rw [List.append_assoc, List.cons_append, List.cons_append, List.nil_append] at hall
          rw [hall]
          exact ih hu depth
  | @parens _ t s ht _ iht ihs =>
    exact le_depthFrom_group (by decide) (counts_depthFrom.parens depth) ht (by omega) (iht · (depth + 1))
      (ihs · depth) hp
  | @brackets _ t s ht _ iht ihs =>
    exact le_depthFrom_group (by decide) (counts_depthFrom.brackets depth) ht (Int.le_refl _) (iht · depth)
      (ihs · depth) hp

end LadderAtlas.L5k
