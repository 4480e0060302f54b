import LadderAtlas.Proofs.Ladder.WrittenExpressions

/-!
# Paths with formulas in their indices

A path is written as a tree: its indices hold formulas over literals and further paths, to any depth. A formula is
read up to the character behind it, whatever that is, as long as it is neutral. This is the form of each law for a
scan, and the laws for a tree are put together from those for its parts: blanking out numerals with a radix in the
text of a tree gives the text of a tree without them (`Formula.blankRadix_text`).
-/

namespace LadderAtlas.Ladder
open Text

mutual

/-- The members and indices of a path. -/
inductive Parts
  | done
  | member (name : List Char) (rest : Parts)
  | index (list : Indices) (rest : Parts)

/-- The formulas between two brackets. -/
inductive Indices
  | last (f : Formula)
  | more (f : Formula) (rest : Indices)

inductive Formula
  | literal (n : List Char)
  | path (base : List Char) (parts : Parts)
  | combined (f : Formula) (op : Char) (g : Formula)
  | group (f : Formula)

end

/-- A whole number, or blanks, which also stand before a sign and around an operator. -/
inductive IsIndexLiteral : List Char → Prop
  | blank {n : List Char} (hn : IsBlankText n) : IsIndexLiteral n
  | digits {n : List Char} (hn : IsDigits n) : IsIndexLiteral n
  | radix {n : List Char} (hn : IsRadixNumeral n) : IsIndexLiteral n

/-- A base that is no word of the expression language. -/
structure IsTagBase (u : List Char) : Prop where
  base : IsBase u
  tag : ¬ IsKeyword u

def IsOperator (c : Char) : Prop := c ∈ ['+', '-', '*', '/'] ∨ isBlank c = true

mutual

def Parts.text : Parts → List Char
  | .done => []
  | .member g rest => '.' :: g ++ rest.text
  | .index l rest => '[' :: l.text ++ ']' :: rest.text

def Indices.text : Indices → List Char
  | .last f => f.text
  | .more f rest => f.text ++ ',' :: rest.text

def Formula.text : Formula → List Char
  | .literal n => n
  | .path u p => u ++ p.text
  | .combined f op g => f.text ++ op :: g.text
  | .group f => '(' :: f.text ++ [')']

end

mutual

def Parts.WellFormed : Parts → Prop
  | .done => True
  | .member g rest => IsSegment g ∧ rest.WellFormed
  | .index l rest => l.WellFormed ∧ rest.WellFormed

def Indices.WellFormed : Indices → Prop
  | .last f => f.WellFormed
  | .more f rest => f.WellFormed ∧ rest.WellFormed

def Formula.WellFormed : Formula → Prop
  | .literal n => IsIndexLiteral n
  | .path u p => IsTagBase u ∧ p.WellFormed
  | .combined f op g => f.WellFormed ∧ IsOperator op ∧ g.WellFormed
  | .group f => f.WellFormed

end

mutual

/-- The bases of all paths in the indices, each before those in its own indices. -/
def Parts.bases : Parts → List (List Char)
  | .done => []
  | .member _ rest => rest.bases
  | .index l rest => l.bases ++ rest.bases

def Indices.bases : Indices → List (List Char)
  | .last f => f.bases
  | .more f rest => f.bases ++ rest.bases

def Formula.bases : Formula → List (List Char)
  | .literal _ => []
  | .path u p => u :: p.bases
  | .combined f _ g => f.bases ++ g.bases
  | .group f => f.bases

end

/-! ### The characters of a tree -/

/-- A text in which nothing is bracketed, quoted or cut. -/
def IsPlain (s : List Char) : Prop := ∀ c ∈ s, c ∉ ['\'', '"', '(', ')', '[', ']', ',']

instance (s : List Char) : Decidable (IsPlain s) :=
  List.decidableBAll (fun c => c ∉ ['\'', '"', '(', ')', '[', ']', ',']) s

section plain
variable {s t : List Char}

theorem isPlain_of {p : Char → Bool} (hp : ['\'', '"', '(', ')', '[', ']', ','].any p = false)
    (hs : ∀ c ∈ s, p c = true) : IsPlain s := by
  intro c hc hm
  have hpc := List.any_eq_false.1 hp c hm
  exact hpc (hs c hc)

theorem IsPlain.nested (h : IsPlain s) {inside : Bool} : Nested inside s :=
  .of_plain (List.all_eq_true.2 fun c hc => decide_eq_true (h c hc))

theorem IsPlain.unquoted (h : IsPlain s) : ∀ c ∈ s, ¬ IsQuote c := by
  rintro c hc (rfl | rfl)
  · exact h _ hc (by decide)
  · exact h _ hc (by decide)

theorem IsPlain.unbracketed (h : IsPlain s) : IsUnbracketed s := by
  intro c hc
  have hne := h c hc
  simp only [List.mem_cons, not_or] at hne
  exact ⟨hne.2.2.2.2.1, hne.2.2.2.2.2.1⟩

theorem IsPlain.append (hs : IsPlain s) (ht : IsPlain t) : IsPlain (s ++ t) :=
  fun c hc => (List.mem_append.1 hc).elim (hs c) (ht c)

theorem isPlain_segment {g : List Char} (h : IsSegment g) : IsPlain g := isPlain_of (by decide) h.parts

theorem isPlain_member {g : List Char} (h : IsSegment g) : IsPlain ('.' :: g) := by
  have hpoint : IsPlain ['.'] := by decide
  exact hpoint.append (isPlain_segment h)

theorem isPlain_base {u : List Char} (h : IsBase u) : IsPlain u := by
  intro c hc
  rcases h.mem hc with rfl | rfl | hp
  · decide
  · decide
  · exact isPlain_segment ⟨by simp, by simpa using hp⟩ c (List.mem_singleton_self c)

theorem isPlain_literal {n : List Char} (h : IsIndexLiteral n) : IsPlain n := by
  cases h with
  | blank hn => exact isPlain_of (by decide) hn
  | digits hn => exact isPlain_of (by decide) hn.digits
  | radix hn =>
    obtain ⟨d, v, hd, -, hv, rfl⟩ := hn.split
    have hsign : IsPlain ['#'] := by decide
    exact (isPlain_of (by decide) hd.digits).append (hsign.append (isPlain_of (by decide) hv))

theorem isNeutral_operator {c : Char} (h : IsOperator c) : IsNeutral c := by
  rcases h with hc | hblank
  · refine isNeutral_separator (.inl ?_)
    simp only [List.mem_cons, List.not_mem_nil, or_false] at hc ⊢
    tauto
  · exact isNeutral_separator (.inr hblank)

theorem isPlain_operator {c : Char} (h : IsOperator c) : IsPlain [c] := by
  rcases h with hc | hblank
  · simp only [List.mem_cons, List.not_mem_nil, or_false] at hc
    rcases hc with rfl | rfl | rfl | rfl <;> decide
  · exact isPlain_of (p := isBlank) (by decide) (by simpa using hblank)

/-- Without quotes, nested brackets are balanced. -/
theorem Nested.balanced {inside : Bool} (h : Nested inside s) (hs : ∀ c ∈ s, ¬ IsQuote c) : Balanced s := by
  induction h with
  | nil => exact .nil
  | plain hc _ _ ih =>
    obtain ⟨-, hs⟩ := List.forall_mem_cons.1 hs
    simp only [List.mem_cons, not_or] at hc
    exact .plain hc.2.2.2.2.1 hc.2.2.2.2.2.1 (ih hs)
  | quoted hq _ _ _ => exact absurd hq (hs _ (by simp))
  | @parens _ t s _ _ iht ihs =>
    have hbody := iht fun c hc => hs c (by simp [hc])
    have hrest := ihs fun c hc => hs c (by simp [hc])
    exact .plain (by decide) (by decide) (hbody.append (.plain (by decide) (by decide) hrest))
  | @brackets _ t s _ _ iht ihs =>
    exact .group (iht fun c hc => hs c (by simp [hc])) (ihs fun c hc => hs c (by simp [hc]))

end plain

mutual

theorem Parts.nested : ∀ p : Parts, p.WellFormed → Nested false p.text
  | .done, _ => .nil
  | .member _ rest, h => (isPlain_member h.1).nested.append (rest.nested h.2)
  | .index l rest, h => .brackets (l.nested h.1) (rest.nested h.2)

theorem Indices.nested : ∀ l : Indices, l.WellFormed → Nested true l.text
  | .last f, h => (f.nested h).mono
  | .more f rest, h => (f.nested h.1).mono.append (.plain (by decide) (fun _ => rfl) (rest.nested h.2))

theorem Formula.nested : ∀ f : Formula, f.WellFormed → Nested false f.text
  | .literal _, h => (isPlain_literal h).nested
  | .path _ p, h => (isPlain_base h.1.base).nested.append (p.nested h.2)
  | .combined f _ g, h => (f.nested h.1).append ((isPlain_operator h.2.1).nested.append (g.nested h.2.2))
  | .group f, h => .parens (f.nested h).mono .nil

end

mutual

theorem Parts.unquoted : ∀ p : Parts, p.WellFormed → ∀ c ∈ p.text, ¬ IsQuote c
  | .done, _ => by simp [Parts.text]
  | .member _ rest, h => List.forall_mem_append.2 ⟨(isPlain_member h.1).unquoted, rest.unquoted h.2⟩
  | .index l rest, h => by
    rw [Parts.text, List.cons_append, List.forall_mem_cons, List.forall_mem_append, List.forall_mem_cons]
    exact ⟨by decide, l.unquoted h.1, by decide, rest.unquoted h.2⟩

theorem Indices.unquoted : ∀ l : Indices, l.WellFormed → ∀ c ∈ l.text, ¬ IsQuote c
  | .last f, h => f.unquoted h
  | .more f rest, h => by
    rw [Indices.text, List.forall_mem_append, List.forall_mem_cons]
    exact ⟨f.unquoted h.1, by decide, rest.unquoted h.2⟩

theorem Formula.unquoted : ∀ f : Formula, f.WellFormed → ∀ c ∈ f.text, ¬ IsQuote c
  | .literal _, h => (isPlain_literal h).unquoted
  | .path _ p, h => List.forall_mem_append.2 ⟨(isPlain_base h.1.base).unquoted, p.unquoted h.2⟩
  | .combined f _ g, h => by
    rw [Formula.text, List.forall_mem_append, List.forall_mem_cons]
    exact ⟨f.unquoted h.1, (isPlain_operator h.2.1).unquoted _ (by simp), g.unquoted h.2.2⟩
  | .group f, h => by
    rw [Formula.text, List.cons_append, List.forall_mem_cons, List.forall_mem_append, List.forall_mem_singleton]
    exact ⟨by decide, f.unquoted h, by decide⟩

end

/-! ### Blanking out -/

mutual

/-- A tree in which the numerals with a radix are blanked out. -/
def Parts.hide : Parts → Parts
  | .done => .done
  | .member g rest => .member g rest.hide
  | .index l rest => .index l.hide rest.hide

def Indices.hide : Indices → Indices
  | .last f => .last f.hide
  | .more f rest => .more f.hide rest.hide

def Formula.hide : Formula → Formula
  | .literal n => .literal (if '#' ∈ n then [' '] else n)
  | .path u p => .path u p.hide
  | .combined f op g => .combined f.hide op g.hide
  | .group f => .group f.hide

end

mutual

theorem Parts.bases_hide : ∀ p : Parts, p.hide.bases = p.bases
  | .done => rfl
  | .member _ rest => rest.bases_hide
  | .index l rest => congrArg₂ _ l.bases_hide rest.bases_hide

theorem Indices.bases_hide : ∀ l : Indices, l.hide.bases = l.bases
  | .last f => f.bases_hide
  | .more f rest => congrArg₂ _ f.bases_hide rest.bases_hide

theorem Formula.bases_hide : ∀ f : Formula, f.hide.bases = f.bases
  | .literal _ => rfl
  | .path u p => congrArg (u :: ·) p.bases_hide
  | .combined f _ g => congrArg₂ _ f.bases_hide g.bases_hide
  | .group f => f.bases_hide

end

mutual

theorem Parts.wellFormed_hide : ∀ p : Parts, p.WellFormed → p.hide.WellFormed
  | .done, _ => trivial
  | .member _ rest, h => ⟨h.1, rest.wellFormed_hide h.2⟩
  | .index l rest, h => ⟨l.wellFormed_hide h.1, rest.wellFormed_hide h.2⟩

theorem Indices.wellFormed_hide : ∀ l : Indices, l.WellFormed → l.hide.WellFormed
  | .last f, h => f.wellFormed_hide h
  | .more f rest, h => ⟨f.wellFormed_hide h.1, rest.wellFormed_hide h.2⟩

theorem Formula.wellFormed_hide : ∀ f : Formula, f.WellFormed → f.hide.WellFormed
  | .literal n, h => by
    show IsIndexLiteral (if '#' ∈ n then [' '] else n)
    split
    · exact .blank (by decide)
    · exact h
  | .path _ p, h => ⟨h.1, p.wellFormed_hide h.2⟩
  | .combined f _ g, h => ⟨f.wellFormed_hide h.1, h.2.1, g.wellFormed_hide h.2.2⟩
  | .group f, h => f.wellFormed_hide h

end

/-- A text that goes on with a part of a path or with a neutral character. -/
def EndsPath (s : List Char) : Prop := ∀ c r, s = c :: r → IsNeutral c ∨ c = '.' ∨ c = '['

section scans
variable {x : Char} {s : List Char} {b : Bool}

theorem endsPath_parts (p : Parts) (hx : IsNeutral x) (s : List Char) : EndsPath (p.text ++ x :: s) := by
  rintro c r he
  cases p with
  | done =>
    obtain ⟨rfl, -⟩ := List.cons.inj he
    exact .inl hx
  | member g rest =>
    obtain ⟨rfl, -⟩ := List.cons.inj he
    exact .inr (.inl rfl)
  | index l rest =>
    obtain ⟨rfl, -⟩ := List.cons.inj he
    exact .inr (.inr rfl)

theorem EndsPath.numeral (h : EndsPath s) : EndsNumeral s := by
  intro c r he
  rcases h c r he with hc | rfl | rfl
  · exact ⟨hc.decimal, hc.ne.1⟩
  · decide
  · decide

theorem EndsPath.base (h : EndsPath s) : EndsBase s := by
  intro c r he
  rcases h c r he with hc | rfl | rfl
  · exact ⟨hc.part, hc.ne.2.2.1⟩
  · decide
  · decide

theorem isNeutral_close : IsNeutral ']' := ⟨by decide, by decide⟩

theorem isNeutral_comma : IsNeutral ',' := isNeutral_separator (.inl (by decide))

theorem isNeutral_paren : IsNeutral ')' := isNeutral_separator (.inl (by decide))

theorem blankRadix_literal {n : List Char} (h : IsIndexLiteral n) (hx : IsNeutral x) (s : List Char) :
    blankRadix false (n ++ x :: s) = (Formula.literal n).hide.text ++ x :: blankRadix false s := by
  show _ = (if '#' ∈ n then [' '] else n) ++ x :: blankRadix false s
  have hends : EndsNumeral (x :: s) := (endsPath_parts .done hx s).numeral
  by_cases hsign : '#' ∈ n
  · have hn : IsRadixNumeral n := by
      cases h with
      | blank hn => exact absurd (hn _ hsign) (by decide)
      | digits hn => exact absurd (hn.digits _ hsign) (by decide)
      | radix hn => exact hn
    have hradix : EndsRadix (x :: s) := by
      rintro c r he
      obtain ⟨rfl, -⟩ := List.cons.inj he
      exact hx.radixDigit
    rw [if_pos hsign, blankRadix_radix hn hradix, blankRadix_separator hx.word]
    rfl
  · rw [if_neg hsign, blankRadix_plain hsign hends, blankRadix_separator hx.word]

mutual

theorem Parts.blankRadix_text : ∀ p : Parts, p.WellFormed → ∀ {x : Char} {b : Bool}, IsNeutral x → ∀ s,
    blankRadix b (p.text ++ x :: s) = p.hide.text ++ x :: blankRadix false s
  | .done, _, _, _, hx, s => blankRadix_separator hx.word s
  | .member g rest, h, x, b, hx, s => by
    have hsign : '#' ∉ '.' :: g := by
      rintro (_ | ⟨_, hm⟩)
      exact absurd (h.1.parts _ hm) (by decide)
    rw [Parts.text, List.append_assoc, blankRadix_plain hsign (endsPath_parts rest hx s).numeral,
      rest.blankRadix_text h.2 hx, Parts.hide, Parts.text, List.append_assoc]
  | .index l rest, h, x, b, hx, s => by
    rw [Parts.text, List.append_assoc, List.cons_append, blankRadix_separator (by decide), List.cons_append,
      l.blankRadix_text h.1 isNeutral_close, rest.blankRadix_text h.2 hx, Parts.hide, Parts.text, List.append_assoc]
    rfl

theorem Indices.blankRadix_text : ∀ l : Indices, l.WellFormed → ∀ {x : Char}, IsNeutral x → ∀ s,
    blankRadix false (l.text ++ x :: s) = l.hide.text ++ x :: blankRadix false s
  | .last f, h, _, hx, s => f.blankRadix_text h hx s
  | .more f rest, h, x, hx, s => by
    rw [Indices.text, List.append_assoc, List.cons_append, f.blankRadix_text h.1 isNeutral_comma,
      rest.blankRadix_text h.2 hx, Indices.hide, Indices.text, List.append_assoc]
    rfl

theorem Formula.blankRadix_text : ∀ f : Formula, f.WellFormed → ∀ {x : Char}, IsNeutral x → ∀ s,
    blankRadix false (f.text ++ x :: s) = f.hide.text ++ x :: blankRadix false s
  | .literal _, h, _, hx, s => blankRadix_literal h hx s
  | .path u p, h, x, hx, s => by
    have hsign : '#' ∉ u := h.1.base.not_mem (by decide) (by decide)
    rw [Formula.text, List.append_assoc, blankRadix_plain hsign (endsPath_parts p hx s).numeral,
      p.blankRadix_text h.2 hx, Formula.hide, Formula.text, List.append_assoc]
  | .combined f op g, h, x, hx, s => by
    rw [Formula.text, List.append_assoc, List.cons_append, f.blankRadix_text h.1 (isNeutral_operator h.2.1),
      g.blankRadix_text h.2.2 hx, Formula.hide, Formula.text, List.append_assoc]
    rfl
  | .group f, h, x, hx, s => by
    rw [Formula.text, List.cons_append, List.cons_append, blankRadix_separator (by decide), List.append_assoc,
      List.singleton_append, f.blankRadix_text h isNeutral_paren, blankRadix_separator hx.word, Formula.hide,
      Formula.text, List.cons_append, List.cons_append, List.append_assoc]
    rfl

end

end scans

end LadderAtlas.Ladder
