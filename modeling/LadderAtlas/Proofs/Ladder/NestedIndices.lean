import LadderAtlas.Proofs.Ladder.IndexTags
import LadderAtlas.Proofs.Ladder.IndexTrees

/-!
# Paths within paths

The search in an index finds a path only up to its first index with brackets in it, then the paths in what is left,
one after another (`Fragment`). No base is lost in this, nor found twice, and members are not taken for bases, so the
fragments have the bases of the tree in preorder (`bases_fragments`). Each fragment is shorter than the path in whose
index it is found; so by induction on the length, the tags in the indices of a path have the bases of all paths in
its indices (`bases_indexTags`).
-/

namespace LadderAtlas.Ladder
open Text

/-! ### Fragments -/

/-- A path as the search finds it, with no brackets in its indices. -/
structure Fragment where
  base : List Char
  parts : Parts

def Fragment.text (x : Fragment) : List Char := x.base ++ x.parts.text

def Fragment.bases (x : Fragment) : List (List Char) := x.base :: x.parts.bases

structure Fragment.WellFormed (x : Fragment) : Prop where
  base : IsTagBase x.base
  parts : x.parts.WellFormed
  flat : IsFlatParts x.parts.text

def Indices.IsFlat (l : Indices) : Prop := IsUnbracketed l.text

instance (l : Indices) : Decidable l.IsFlat := inferInstanceAs (Decidable (IsUnbracketed l.text))

/-- The parts up to the first index with brackets in it. -/
def Parts.flat : Parts → Parts
  | .done => .done
  | .member g rest => .member g rest.flat
  | .index l rest => if l.IsFlat then .index l rest.flat else .done

/-- The parts from the first index with brackets in it. -/
def Parts.deep : Parts → Parts
  | .done => .done
  | .member _ rest => rest.deep
  | .index l rest => if l.IsFlat then rest.deep else .index l rest

mutual

/-- The paths that are found where some parts stand alone. -/
def Parts.fragments : Parts → List Fragment
  | .done => []
  | .member _ rest => rest.fragments
  | .index l rest => l.fragments ++ rest.fragments

/-- The paths that are found in the deep parts. -/
def Parts.deepFragments : Parts → List Fragment
  | .done => []
  | .member _ rest => rest.deepFragments
  | .index l rest => if l.IsFlat then rest.deepFragments else l.fragments ++ rest.fragments

def Indices.fragments : Indices → List Fragment
  | .last f => f.fragments
  | .more f rest => f.fragments ++ rest.fragments

def Formula.fragments : Formula → List Fragment
  | .literal _ => []
  | .path u p => ⟨u, p.flat⟩ :: p.deepFragments
  | .combined f _ g => f.fragments ++ g.fragments
  | .group f => f.fragments

end

theorem Parts.flat_append_deep (p : Parts) : p.flat.text ++ p.deep.text = p.text := by
  cases p with
  | done => rfl
  | member g rest => rw [flat, deep, text, text, List.append_assoc, rest.flat_append_deep]
  | index l rest =>
    rw [flat, deep]
    split
    · rw [text, text, List.append_assoc, List.cons_append, List.cons_append, rest.flat_append_deep]
      rfl
    · rfl

theorem Parts.bases_flat_append_deep (p : Parts) : p.flat.bases ++ p.deep.bases = p.bases := by
  cases p with
  | done => rfl
  | member _ rest => exact rest.bases_flat_append_deep
  | index l rest =>
    rw [flat, deep]
    split
    · rw [bases, bases, List.append_assoc, rest.bases_flat_append_deep]
    · rfl

theorem Parts.wellFormed_flat (p : Parts) (h : p.WellFormed) : p.flat.WellFormed := by
  cases p with
  | done => trivial
  | member _ rest => exact ⟨h.1, rest.wellFormed_flat h.2⟩
  | index l rest =>
    rw [flat]
    split
    · exact ⟨h.1, rest.wellFormed_flat h.2⟩
    · trivial

theorem Parts.isFlatParts_flat (p : Parts) (h : p.WellFormed) : IsFlatParts p.flat.text := by
  cases p with
  | done => exact .nil
  | member _ rest => exact .member h.1 (rest.isFlatParts_flat h.2)
  | index l rest =>
    rw [flat]
    split
    · rename_i hflat
      exact .index hflat (rest.isFlatParts_flat h.2)
    · exact .nil

mutual

/-- The search loses no base and finds none twice. -/
theorem Parts.bases_fragments : ∀ p : Parts, p.fragments.flatMap Fragment.bases = p.bases
  | .done => rfl
  | .member _ rest => rest.bases_fragments
  | .index l rest => by
    rw [Parts.fragments, List.flatMap_append, l.bases_fragments, rest.bases_fragments, Parts.bases]

theorem Parts.bases_deepFragments : ∀ p : Parts, p.deepFragments.flatMap Fragment.bases = p.deep.bases
  | .done => rfl
  | .member _ rest => rest.bases_deepFragments
  | .index l rest => by
    rw [Parts.deepFragments, Parts.deep]
    split
    · exact rest.bases_deepFragments
    · rw [List.flatMap_append, l.bases_fragments, rest.bases_fragments, Parts.bases]

theorem Indices.bases_fragments : ∀ l : Indices, l.fragments.flatMap Fragment.bases = l.bases
  | .last f => f.bases_fragments
  | .more f rest => by
    rw [Indices.fragments, List.flatMap_append, f.bases_fragments, rest.bases_fragments, Indices.bases]

theorem Formula.bases_fragments : ∀ f : Formula, f.fragments.flatMap Fragment.bases = f.bases
  | .literal _ => rfl
  | .path u p => by
    rw [Formula.fragments, List.flatMap_cons, p.bases_deepFragments, Fragment.bases, List.cons_append,
      p.bases_flat_append_deep, Formula.bases]
  | .combined f _ g => by
    rw [Formula.fragments, List.flatMap_append, f.bases_fragments, g.bases_fragments, Formula.bases]
  | .group f => f.bases_fragments

end

mutual

theorem Parts.wellFormed_fragments : ∀ p : Parts, p.WellFormed → ∀ x ∈ p.fragments, x.WellFormed
  | .done, _ => by simp [Parts.fragments]
  | .member _ rest, h => rest.wellFormed_fragments h.2
  | .index l rest, h => List.forall_mem_append.2 ⟨l.wellFormed_fragments h.1, rest.wellFormed_fragments h.2⟩

theorem Parts.wellFormed_deepFragments : ∀ p : Parts, p.WellFormed → ∀ x ∈ p.deepFragments, x.WellFormed
  | .done, _ => by simp [Parts.deepFragments]
  | .member _ rest, h => rest.wellFormed_deepFragments h.2
  | .index l rest, h => by
    rw [Parts.deepFragments]
    split
    · exact rest.wellFormed_deepFragments h.2
    · exact List.forall_mem_append.2 ⟨l.wellFormed_fragments h.1, rest.wellFormed_fragments h.2⟩

theorem Indices.wellFormed_fragments : ∀ l : Indices, l.WellFormed → ∀ x ∈ l.fragments, x.WellFormed
  | .last f, h => f.wellFormed_fragments h
  | .more f rest, h => List.forall_mem_append.2 ⟨f.wellFormed_fragments h.1, rest.wellFormed_fragments h.2⟩

theorem Formula.wellFormed_fragments : ∀ f : Formula, f.WellFormed → ∀ x ∈ f.fragments, x.WellFormed
  | .literal _, _ => by simp [Formula.fragments]
  | .path _ p, h => List.forall_mem_cons.2
    ⟨⟨h.1, p.wellFormed_flat h.2, p.isFlatParts_flat h.2⟩, p.wellFormed_deepFragments h.2⟩
  | .combined f _ g, h => List.forall_mem_append.2 ⟨f.wellFormed_fragments h.1, g.wellFormed_fragments h.2.2⟩
  | .group f, h => f.wellFormed_fragments h

end

/-! ### The search in a tree -/

section search
variable {x : Char} {s : List Char} {b : Bool}

theorem pathsFrom_literal {n : List Char} (h : IsIndexLiteral n) (hx : IsNeutral x) (s : List Char) :
    pathsFrom true 0 (n ++ x :: s) = pathsFrom true 0 s := by
  cases h with
  | blank hn => rw [pathsFrom_blank hn, pathsFrom_neutral hx]
  | digits hn => rw [pathsFrom_mantissa (.whole hn), pathsFrom_neutral hx]
  | radix hn =>
    obtain ⟨d, v, hd, -, hv, rfl⟩ := hn.split
    have hword : ∀ c ∈ v, isWordChar c = true := fun c hc =>
      isWordChar_of_isIdentifierPart (isIdentifierPart_of_isRadixDigit (hv c hc))
    have hsign : pathsFrom false 0 ('#' :: (v ++ x :: s)) = pathsFrom false 0 (v ++ x :: s) :=
      pathsFrom_pass (by simp)
    rw [List.append_assoc, pathsFrom_mantissa (.whole hd), List.cons_append, hsign, pathsFrom_word hword,
      pathsFrom_neutral hx]

theorem pathsFrom_member {g : List Char} (hg : IsSegment g) (s : List Char) :
    pathsFrom b 0 ('.' :: g ++ s) = pathsFrom false 0 s := by
  have hpoint : pathsFrom b 0 ('.' :: (g ++ s)) = pathsFrom false 0 (g ++ s) :=
    pathsFrom_pass fun _ => flatPathRest?_of_head (by decide) (by decide) _
  rw [List.cons_append, hpoint, pathsFrom_word fun c hc => isWordChar_of_isIdentifierPart (hg.parts c hc)]

theorem pathsFrom_open (s : List Char) : pathsFrom b 0 ('[' :: s) = pathsFrom true 0 s :=
  pathsFrom_pass fun _ => flatPathRest?_of_head (by decide) (by decide) _

/-- The path that the search finds ends with the flat parts. -/
theorem Parts.flatPartRest_text_deep : ∀ p : Parts, p.WellFormed → ∀ {x : Char}, IsNeutral x → ∀ s,
    flatPartRest (p.deep.text ++ x :: s) = p.deep.text ++ x :: s
  | .done, _, x, hx, s => by
    refine flatPartRest_of_head fun c t he => ?_
    obtain ⟨rfl, -⟩ := List.cons.inj he
    exact ⟨hx.ne.2.1, hx.ne.2.2.2.1⟩
  | .member _ rest, h, _, hx, s => rest.flatPartRest_text_deep h.2 hx s
  | .index l rest, h, x, hx, s => by
    rw [deep]
    split
    · exact rest.flatPartRest_text_deep h.2 hx s
    · rename_i hdeep
      rcases ((l.nested h.1).balanced (l.unquoted h.1)).flat_or_deep with hflat | ⟨t, u, hl, ht⟩
      · exact absurd hflat hdeep
      · rw [text, hl, List.append_assoc, List.cons_append, List.append_assoc, List.cons_append]
        exact flatPartRest_deep ht _

mutual

theorem Parts.pathsFrom_text : ∀ p : Parts, p.WellFormed → ∀ {x : Char} {b : Bool}, IsNeutral x → ∀ s,
    pathsFrom b 0 (p.text ++ x :: s) = p.fragments.map Fragment.text ++ pathsFrom true 0 s
  | .done, _, _, _, hx, s => pathsFrom_neutral hx s
  | .member g rest, h, x, b, hx, s => by
    rw [Parts.text, List.append_assoc, pathsFrom_member h.1, rest.pathsFrom_text h.2 hx, Parts.fragments]
  | .index l rest, h, x, b, hx, s => by
    rw [Parts.text, List.append_assoc, List.cons_append, pathsFrom_open, List.cons_append,
      l.pathsFrom_text h.1 isNeutral_close, rest.pathsFrom_text h.2 hx, Parts.fragments, List.map_append,
      List.append_assoc]

theorem Parts.pathsFrom_deep : ∀ p : Parts, p.WellFormed → ∀ {x : Char} {b : Bool}, IsNeutral x → ∀ s,
    pathsFrom b 0 (p.deep.text ++ x :: s) = p.deepFragments.map Fragment.text ++ pathsFrom true 0 s
  | .done, _, _, _, hx, s => pathsFrom_neutral hx s
  | .member _ rest, h, _, _, hx, s => rest.pathsFrom_deep h.2 hx s
  | .index l rest, h, x, b, hx, s => by
    rw [Parts.deep, Parts.deepFragments]
    split
    · exact rest.pathsFrom_deep h.2 hx s
    · rw [Parts.text, List.append_assoc, List.cons_append, pathsFrom_open, List.cons_append,
        l.pathsFrom_text h.1 isNeutral_close, rest.pathsFrom_text h.2 hx, List.map_append, List.append_assoc]

theorem Indices.pathsFrom_text : ∀ l : Indices, l.WellFormed → ∀ {x : Char}, IsNeutral x → ∀ s,
    pathsFrom true 0 (l.text ++ x :: s) = l.fragments.map Fragment.text ++ pathsFrom true 0 s
  | .last f, h, _, hx, s => f.pathsFrom_text h hx s
  | .more f rest, h, x, hx, s => by
    rw [Indices.text, List.append_assoc, List.cons_append, f.pathsFrom_text h.1 isNeutral_comma,
      rest.pathsFrom_text h.2 hx, Indices.fragments, List.map_append, List.append_assoc]

theorem Formula.pathsFrom_text : ∀ f : Formula, f.WellFormed → ∀ {x : Char}, IsNeutral x → ∀ s,
    pathsFrom true 0 (f.text ++ x :: s) = f.fragments.map Fragment.text ++ pathsFrom true 0 s
  | .literal _, h, _, hx, s => pathsFrom_literal h hx s
  | .path u p, h, x, hx, s => by
    have hends := endsPath_parts p.deep hx s
    rw [Formula.text, ← p.flat_append_deep, ← List.append_assoc, List.append_assoc,
      pathsFrom_path h.1.base (p.isFlatParts_flat h.2) hends.base (p.flatPartRest_text_deep h.2 hx s),
      p.pathsFrom_deep h.2 hx]
    rfl
  | .combined f op g, h, x, hx, s => by
    rw [Formula.text, List.append_assoc, List.cons_append, f.pathsFrom_text h.1 (isNeutral_operator h.2.1),
      g.pathsFrom_text h.2.2 hx, Formula.fragments, List.map_append, List.append_assoc]
  | .group f, h, x, hx, s => by
    have hopen : pathsFrom true 0 ('(' :: (f.text ++ [')'] ++ x :: s)) = pathsFrom true 0 (f.text ++ [')'] ++ x :: s) :=
      pathsFrom_neutral (isNeutral_separator (.inl (by decide))) _
    rw [Formula.text, List.cons_append, List.cons_append, hopen, List.append_assoc, List.singleton_append,
      f.pathsFrom_text h isNeutral_paren, pathsFrom_neutral hx, Formula.fragments]

end

end search

/-! ### The tags in the indices of a tree -/

def Parts.indices : Parts → List Indices
  | .done => []
  | .member _ rest => rest.indices
  | .index l rest => l :: rest.indices

def Indices.formulas : Indices → List Formula
  | .last f => [f]
  | .more f rest => f :: rest.formulas

theorem Parts.bases_indices : ∀ p : Parts, p.indices.flatMap Indices.bases = p.bases
  | .done => rfl
  | .member _ rest => rest.bases_indices
  | .index l rest => by rw [indices, List.flatMap_cons, rest.bases_indices, bases]

theorem Indices.bases_formulas : ∀ l : Indices, l.formulas.flatMap Formula.bases = l.bases
  | .last f => by rw [formulas, List.flatMap_singleton, bases]
  | .more f rest => by rw [formulas, List.flatMap_cons, rest.bases_formulas, bases]

section brackets
variable {t inside : List Char} {depth : Int}

theorem bracketsFrom_unbracketed (ht : IsUnbracketed t) (s : List Char) :
    bracketsFrom depth inside (t ++ s) = bracketsFrom depth (t.reverse ++ inside) s := by
  induction t generalizing inside with
  | nil => rfl
  | cons c t ih =>
    obtain ⟨hc, ht⟩ := List.forall_mem_cons.1 ht
    rw [List.cons_append, bracketsFrom, if_neg hc.1, if_neg hc.2, ih ht, List.reverse_cons, List.append_assoc]
    rfl

/-- Inside of brackets, balanced ones are kept as they are. -/
theorem bracketsFrom_balanced (ht : Balanced t) (hd : 0 < depth) (s : List Char) :
    bracketsFrom depth inside (t ++ s) = bracketsFrom depth (t.reverse ++ inside) s := by
  induction ht generalizing depth inside s with
  | nil => rfl
  | plain hopen hclose _ ih =>
    rw [List.cons_append, bracketsFrom, if_neg hopen, if_neg hclose, ih hd, List.reverse_cons, List.append_assoc]
    rfl
  | @group t u _ _ iht ihu =>
    have hopen : ∀ r, bracketsFrom depth inside ('[' :: r) = bracketsFrom (depth + 1) ('[' :: inside) r := by
      intro r
      rw [bracketsFrom, if_pos rfl, if_neg (by omega)]
    have hclose : ∀ i r, bracketsFrom (depth + 1) i (']' :: r) = bracketsFrom depth (']' :: i) r := by
      intro i r
      rw [bracketsFrom, if_neg (by decide), if_pos rfl, if_neg (by omega), Int.add_sub_cancel]
    rw [List.append_assoc, List.cons_append, hopen, iht (by omega), List.cons_append, hclose, ihu hd]
    simp

end brackets

theorem Parts.bracketsFrom_text : ∀ p : Parts, p.WellFormed → ∀ inside,
    bracketsFrom 0 inside p.text = p.indices.map Indices.text
  | .done, _, _ => rfl
  | .member g rest, h, inside => by
    rw [text, bracketsFrom_unbracketed (isPlain_member h.1).unbracketed, rest.bracketsFrom_text h.2, indices]
  | .index l rest, h, inside => by
    have hopen : ∀ r, bracketsFrom 0 inside ('[' :: r) = bracketsFrom 1 [] r := fun _ => rfl
    have hclose : ∀ i r, bracketsFrom 1 i (']' :: r) = i.reverse :: bracketsFrom 0 (']' :: i) r := fun _ _ => rfl
    have hbalanced := (l.nested h.1).balanced (l.unquoted h.1)
    rw [text, List.cons_append, hopen, bracketsFrom_balanced hbalanced (by decide), hclose,
      rest.bracketsFrom_text h.2, List.append_nil, List.reverse_reverse, indices, List.map_cons]

theorem brackets_path {u : List Char} {p : Parts} (hu : IsBase u) (hp : p.WellFormed) :
    brackets (u ++ p.text) = p.indices.map Indices.text := by
  rw [brackets, bracketsFrom_unbracketed (isPlain_base hu).unbracketed, p.bracketsFrom_text hp]

theorem Indices.splitCommas_text : ∀ l : Indices, l.WellFormed →
    splitCommas none 0 l.text = l.formulas.map Formula.text
  | .last f, h => by
    have hf := splitCommas_nested (f.nested h) (Int.le_refl 0) (fun h => by cases h) []
    rw [List.append_nil] at hf
    rw [text, hf]
    simp [splitCommas, glue, formulas]
  | .more f rest, h => by
    rw [text, splitCommas_nested (f.nested h.1) (Int.le_refl 0) (fun h => by cases h), splitCommas_cut,
      rest.splitCommas_text h.2]
    simp [glue, formulas]

theorem Parts.wellFormed_indices : ∀ p : Parts, p.WellFormed → ∀ l ∈ p.indices, l.WellFormed
  | .done, _ => by simp [indices]
  | .member _ rest, h => rest.wellFormed_indices h.2
  | .index _ rest, h => List.forall_mem_cons.2 ⟨h.1, rest.wellFormed_indices h.2⟩

theorem Indices.wellFormed_formulas : ∀ l : Indices, l.WellFormed → ∀ f ∈ l.formulas, f.WellFormed
  | .last _, h => List.forall_mem_singleton.2 h
  | .more _ rest, h => List.forall_mem_cons.2 ⟨h.1, rest.wellFormed_formulas h.2⟩

namespace Fragment.WellFormed
variable {x : Fragment}

/-- A keyword has no parts. -/
theorem not_isKeyword (h : x.WellFormed) : ¬ IsKeyword x.text := by
  intro hk
  have halpha := isAlpha_of_isKeyword hk
  rw [Fragment.text] at hk halpha
  cases hparts : x.parts with
  | done =>
    rw [hparts, Parts.text, List.append_nil] at hk
    exact h.base.tag hk
  | member g rest =>
    rw [hparts] at halpha
    exact absurd (halpha '.' (by simp [Parts.text])) (by decide)
  | index l rest =>
    rw [hparts] at halpha
    exact absurd (halpha '[' (by simp [Parts.text])) (by decide)

theorem takeWhile_text (h : x.WellFormed) : x.text.takeWhile (fun c => c ≠ '.' && c ≠ '[') = x.base := by
  have hbase : ∀ c ∈ x.base, (decide (c ≠ '.') && decide (c ≠ '[')) = true := by
    have hpoint : '.' ∉ x.base := h.base.base.not_mem (by decide) (by decide)
    have hopen : '[' ∉ x.base := h.base.base.not_mem (by decide) (by decide)
    intro c hc
    rw [Bool.and_eq_true, decide_eq_true_iff, decide_eq_true_iff]
    exact ⟨fun he => hpoint (he ▸ hc), fun he => hopen (he ▸ hc)⟩
  rw [Fragment.text, List.takeWhile_append_of_pos hbase]
  cases x.parts with
  | done => exact List.append_nil _
  | member g rest =>
    rw [Parts.text, List.cons_append, List.takeWhile_cons_of_neg (by decide), List.append_nil]
  | index l rest =>
    rw [Parts.text, List.cons_append, List.takeWhile_cons_of_neg (by decide), List.append_nil]

end Fragment.WellFormed

/-- The tags of a formula are its fragments. -/
theorem expressionTags_formula {f : Formula} (h : f.WellFormed) :
    expressionTags f.text = f.hide.fragments.map Fragment.text := by
  have hscan : blankRadix false (f.text ++ [' ']) = f.hide.text ++ [' '] := by
    rw [f.blankRadix_text h isNeutral_blank, blankRadix]
  have hpaths : pathsFrom true 0 (f.hide.text ++ [' ']) = f.hide.fragments.map Fragment.text := by
    rw [f.hide.pathsFrom_text (f.wellFormed_hide h) isNeutral_blank, pathsFrom, List.append_nil]
  have hquote : ∀ c ∈ f.text ++ [' '], ¬ IsQuote c :=
    List.forall_mem_append.2 ⟨f.unquoted h, List.forall_mem_singleton.2 (by decide)⟩
  have hblank : IsBlankText [' '] := by decide
  -- a blank behind the formula ends it
  rw [← expressionTags_append_blank hblank, expressionTags, blankQuotes_eq_self hquote, hscan, hpaths,
    List.filter_eq_self]
  intro t ht
  obtain ⟨x, hx, rfl⟩ := List.mem_map.1 ht
  have hwf := f.hide.wellFormed_fragments (f.wellFormed_hide h) x hx
  have hpath : IsFlatPath x.text := .path hwf.base.base hwf.flat
  rw [Bool.not_eq_true']
  exact Bool.eq_false_iff.2 (mt (contains_keywords_iff hpath).1 hwf.not_isKeyword)

theorem indexTags_path {u : List Char} {p : Parts} (hu : IsBase u) (hp : p.WellFormed) :
    indexTags (u ++ p.text) = p.indices.flatMap fun l => l.formulas.flatMap fun f =>
      f.hide.fragments.flatMap fun x => x.text :: indexTags x.text := by
  have hquote : ∀ c ∈ u ++ p.text, ¬ IsQuote c :=
    List.forall_mem_append.2 ⟨(isPlain_base hu).unquoted, p.unquoted hp⟩
  rw [indexTags_of_unquoted hquote, brackets_path hu hp, List.flatMap_map]
  refine List.flatMap_congr fun l hl => ?_
  have hlist := p.wellFormed_indices hp l hl
  rw [l.splitCommas_text hlist, List.flatMap_map]
  refine List.flatMap_congr fun f hf => ?_
  rw [expressionTags_formula (l.wellFormed_formulas hlist f hf), List.flatMap_map]

theorem length_fragment {u : List Char} {p : Parts} {l : Indices} {f : Formula} {x : Fragment} (hu : IsBase u)
    (hp : p.WellFormed) (hl : l ∈ p.indices) (hf : f ∈ l.formulas) (hx : x ∈ f.hide.fragments) :
    x.text.length < (u ++ p.text).length := by
  have hlist := p.wellFormed_indices hp l hl
  have htag : x.text ∈ expressionTags f.text := by
    rw [expressionTags_formula (l.wellFormed_formulas hlist f hf)]
    exact List.mem_map_of_mem hx
  have hpiece : f.text ∈ splitCommas none 0 l.text := by
    rw [l.splitCommas_text hlist]
    exact List.mem_map_of_mem hf
  have hbrackets : l.text ∈ brackets (u ++ p.text) := by
    rw [brackets_path hu hp]
    exact List.mem_map_of_mem hl
  calc x.text.length ≤ f.text.length := length_expressionTags htag
    _ ≤ l.text.length := (infix_of_mem_splitCommas hpiece).length_le
    _ < (u ++ p.text).length := length_brackets hbrackets

/-- The tags in the indices of a path have the bases of the paths in its indices, each before those in its own
indices. -/
theorem bases_indexTags (u : List Char) (p : Parts) (hu : IsBase u) (hp : p.WellFormed) :
    (indexTags (u ++ p.text)).map (·.takeWhile fun c => c ≠ '.' && c ≠ '[') = p.bases := by
  -- on the length, since a fragment is no part of the tree that it is found in
  induction hn : (u ++ p.text).length using Nat.strong_induction_on generalizing u p with
  | _ n ih =>
    have hfragment : ∀ l ∈ p.indices, ∀ f ∈ l.formulas, ∀ x ∈ f.hide.fragments,
        (x.text :: indexTags x.text).map (·.takeWhile fun c => c ≠ '.' && c ≠ '[') = x.bases := by
      intro l hl f hf x hx
      have hwf := f.hide.wellFormed_fragments
        (f.wellFormed_hide (l.wellFormed_formulas (p.wellFormed_indices hp l hl) f hf)) x hx
      have hlt : (x.base ++ x.parts.text).length < n := by
        rw [← hn]
        exact length_fragment hu hp hl hf hx
      rw [List.map_cons, hwf.takeWhile_text, Fragment.bases]
      exact congrArg _ (ih _ hlt x.base x.parts hwf.base.base hwf.parts rfl)
    rw [indexTags_path hu hp, ← p.bases_indices, List.map_flatMap]
    refine List.flatMap_congr fun l hl => ?_
    rw [← l.bases_formulas, List.map_flatMap]
    refine List.flatMap_congr fun f hf => ?_
    rw [← f.bases_hide, ← f.hide.bases_fragments, List.map_flatMap]
    exact List.flatMap_congr fun x hx => hfragment l hl f hf x hx

/-- The parts of `A[B[C[D[-1]]].x[16#F + E[2],F].5].z[(G-1)*\P.H]`. -/
def nestedParts : Parts :=
  let one := Formula.literal ['1']
  let signed := Formula.combined (.literal []) '-' one
  let inD := Parts.index (.last signed) .done
  let inC := Parts.index (.last (.path ['D'] inD)) .done
  let e := Formula.path ['E'] (.index (.last (.literal ['2'])) .done)
  let sum := Formula.combined (.combined (.literal "16#F".toList) ' ' (.literal [])) '+' (.combined (.literal []) ' ' e)
  let inB := Parts.index (.last (.path ['C'] inC))
    (.member ['x'] (.index (.more sum (.last (.path ['F'] .done))) (.member ['5'] .done)))
  let product := Formula.combined (.group (.combined (.path ['G'] .done) '-' one)) '*'
    (.path "\\P".toList (.member ['H'] .done))
  .index (.last (.path ['B'] inB)) (.member ['z'] (.index (.last product) .done))

theorem isBase_letter {c : Char} (h : isIdentifierStart c = true) : IsBase [c] :=
  isBase_of_isIdentifier ⟨h, by simp⟩

theorem nestedParts_wellFormed : nestedParts.WellFormed := by
  have hletter : ∀ c, isIdentifierStart c = true → ¬ IsKeyword [c] → IsTagBase [c] :=
    fun c hc htag => ⟨isBase_letter hc, htag⟩
  have hlead : IsTagBase "\\P".toList :=
    ⟨@IsBase.base ['\\'] ['P'] [] (.inr rfl) (by decide) .nil, by decide⟩
  have hone : IsIndexLiteral ['1'] := .digits (by decide)
  have htwo : IsIndexLiteral ['2'] := .digits (by decide)
  have hnone : IsIndexLiteral [] := .blank (by decide)
  have hradix : IsIndexLiteral "16#F".toList :=
    .radix ⟨"16".toList, ['F'], by decide, by decide, List.forall_mem_singleton.2 (by decide), rfl⟩
  have hminus : IsOperator '-' := .inl (by decide)
  have hplus : IsOperator '+' := .inl (by decide)
  have htimes : IsOperator '*' := .inl (by decide)
  have hblank : IsOperator ' ' := .inr (by decide)
  have hD : (Parts.index (.last (.combined (.literal []) '-' (.literal ['1']))) .done).WellFormed :=
    ⟨⟨hnone, hminus, hone⟩, trivial⟩
  have hE : (Parts.index (.last (.literal ['2'])) .done).WellFormed := ⟨htwo, trivial⟩
  have hsum : (Formula.combined (.combined (.literal "16#F".toList) ' ' (.literal [])) '+'
      (.combined (.literal []) ' ' (.path ['E'] (.index (.last (.literal ['2'])) .done)))).WellFormed :=
    ⟨⟨hradix, hblank, hnone⟩, hplus, hnone, hblank, hletter 'E' (by decide) (by decide), hE⟩
  have hdifference : (Formula.group (.combined (.path ['G'] .done) '-' (.literal ['1']))).WellFormed :=
    ⟨⟨hletter 'G' (by decide) (by decide), trivial⟩, hminus, hone⟩
  exact ⟨⟨hletter 'B' (by decide) (by decide), ⟨hletter 'C' (by decide) (by decide), ⟨hletter 'D' (by decide) (by decide), hD⟩, trivial⟩,
    (by decide), ⟨hsum, hletter 'F' (by decide) (by decide), trivial⟩, (by decide), trivial⟩,
    (by decide), ⟨hdifference, htimes, hlead, (by decide), trivial⟩, trivial⟩

theorem bases_indexTags_nested : IsBase ['A'] ∧ nestedParts.WellFormed ∧
    (indexTags "A[B[C[D[-1]]].x[16#F + E[2],F].5].z[(G-1)*\\P.H]".toList).map
      (·.takeWhile fun c => c ≠ '.' && c ≠ '[') =
      [['B'], ['C'], ['D'], ['E'], ['F'], ['G'], "\\P".toList] := by
  have hbase : IsBase ['A'] := isBase_letter (by decide)
  exact ⟨hbase, nestedParts_wellFormed, bases_indexTags ['A'] nestedParts hbase nestedParts_wellFormed⟩

end LadderAtlas.Ladder
