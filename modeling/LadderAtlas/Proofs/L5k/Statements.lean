import LadderAtlas.L5k.Declaration
import LadderAtlas.Proofs.Ladder.Rendering
import LadderAtlas.Proofs.Text.Lines

/-! # Statements of a block

The lines of a block are one text, which is split at semicolons. A text is `Sealed` if the splitting passes
over its quotes, groups and semicolons and is outside of all of them at its end; then the semicolon after it
ends it, and otherwise it does not (`split_iff_sealed`). So written statements come back as they were written
if each of them is sealed, and only then: `statementsOf_terminated_iff`. -/

namespace LadderAtlas.L5k
open Text
open Ladder (IsBlankText trim_surrounded exists_trim)

/-- None of some characters occurs. -/
def Avoids (cs s : List Char) : Prop := ∀ c ∈ s, c ∉ cs

instance (cs s : List Char) : Decidable (Avoids cs s) := List.decidableBAll (fun c => c ∉ cs) s

namespace Avoids
variable {cs cs' s t : List Char}

theorem append (hs : Avoids cs s) (ht : Avoids cs t) : Avoids cs (s ++ t) := List.forall_mem_append.2 ⟨hs, ht⟩

theorem mono (h : Avoids cs' s) (hcs : cs ⊆ cs') : Avoids cs s := fun c hc hm => h c hc (hcs hm)

theorem of_blank (hcs : cs.all (!isBlank ·) = true) (hs : IsBlankText s) : Avoids cs s := by
  intro c hc hm
  have hsolid := List.all_eq_true.1 hcs c hm
  rw [hs c hc] at hsolid
  cases hsolid

end Avoids

/-- The characters outside of quotes that the splitting does not just pass over. -/
def marks : List Char := ['"', '(', '[', ')', ']', ';']

/-- Texts that, read from inside a quoted stretch if `inside` and with `depth` groups open, end outside of
quotes and groups and have no semicolon there. A bracket that closes nothing does not count. -/
inductive Sealed : (inside : Bool) → (depth : Nat) → List Char → Prop
  | done : Sealed false 0 []
  | plain {depth : Nat} {c : Char} {s : List Char} (hc : c ∉ marks)
      (hs : Sealed false depth s) : Sealed false depth (c :: s)
  | semicolon {depth : Nat} {s : List Char} (hs : Sealed false (depth + 1) s) :
      Sealed false (depth + 1) (';' :: s)
  | opening {depth : Nat} {c : Char} {s : List Char} (hc : c ∈ ['(', '[']) (hs : Sealed false (depth + 1) s) :
      Sealed false depth (c :: s)
  | closing {depth : Nat} {c : Char} {s : List Char} (hc : c ∈ [')', ']']) (hs : Sealed false (depth - 1) s) :
      Sealed false depth (c :: s)
  | quote {depth : Nat} {s : List Char} (hs : Sealed true depth s) : Sealed false depth ('"' :: s)
  | unquote {depth : Nat} {s : List Char} (hs : Sealed false depth s) : Sealed true depth ('"' :: s)
  | escape {depth : Nat} {c : Char} {s : List Char} (hs : Sealed true depth s) :
      Sealed true depth ('$' :: c :: s)
  | quoted {depth : Nat} {c : Char} {s : List Char} (hc : c ∉ ['$', '"']) (hs : Sealed true depth s) :
      Sealed true depth (c :: s)

/-! ### The first piece -/

/-- How many groups are open after a character. -/
def depthAfter (depth : Nat) (c : Char) (quoted : Bool) : Nat :=
  if quoted then depth
  else if c = '(' || c = '[' then depth + 1
  else if c = ')' || c = ']' then depth - 1
  else depth

theorem depthAfter_plain {depth : Nat} {c : Char} (hc : c ∉ marks) :
    depthAfter depth c false = depth := by
  simp only [marks, List.mem_cons, List.not_mem_nil, or_false, not_or] at hc
  simp [depthAfter, hc]

theorem ne_quote_of_plain {c : Char} (hc : c ∉ marks) : decide (c = '"') = false :=
  decide_eq_false fun he => hc (by simp [marks, he])

theorem splitAtDepth_cons (sep : Char) (depth : Nat) (c : Char) (quoted : Bool) (s : Shaded) :
    splitAtDepth sep depth ((c, quoted) :: s) =
      match splitAtDepth sep (depthAfter depth c quoted) s with
      | [] => [[]]
      | p :: ps => if !quoted && c = sep && depth = 0 then [] :: p :: ps else (c :: p) :: ps := rfl

theorem splitAtDepth_ne_nil (sep : Char) (depth : Nat) (s : Shaded) : splitAtDepth sep depth s ≠ [] := by
  cases s with
  | nil => simp [splitAtDepth]
  | cons p s =>
    rw [splitAtDepth_cons]
    split
    · simp
    · split <;> simp

theorem splitAtDepth_cut (s : Shaded) :
    splitAtDepth ';' 0 ((';', false) :: s) = [] :: splitAtDepth ';' 0 s := by
  obtain ⟨p, ps, hs⟩ := List.exists_cons_of_ne_nil (splitAtDepth_ne_nil ';' 0 s)
  rw [splitAtDepth_cons, show depthAfter 0 ';' false = 0 from rfl, hs]
  rfl

theorem splitAtDepth_keep {depth : Nat} {c : Char} {quoted : Bool}
    (hc : ¬ (quoted = false ∧ c = ';' ∧ depth = 0)) {s : Shaded} {p : List Char} {ps : List (List Char)} :
    splitAtDepth ';' depth ((c, quoted) :: s) = p :: ps ↔
      ∃ t, p = c :: t ∧ splitAtDepth ';' (depthAfter depth c quoted) s = t :: ps := by
  obtain ⟨t, ts, hs⟩ := List.exists_cons_of_ne_nil (splitAtDepth_ne_nil ';' (depthAfter depth c quoted) s)
  have hcut : (!quoted && decide (c = ';') && decide (depth = 0)) = false := by
    rw [← Bool.not_eq_true]
    simpa [and_assoc] using hc
  rw [splitAtDepth_cons, hs]
  simp only [hcut, Bool.false_eq_true, if_false, List.cons.injEq]
  constructor
  · rintro ⟨rfl, rfl⟩
    exact ⟨t, rfl, rfl, rfl⟩
  · rintro ⟨_, rfl, rfl, rfl⟩
    exact ⟨rfl, rfl⟩

theorem splitAtDepth_keep_cons {depth : Nat} {c : Char} {quoted : Bool}
    (hc : ¬ (quoted = false ∧ c = ';' ∧ depth = 0)) {s : Shaded} {t : List Char} {ps : List (List Char)} :
    splitAtDepth ';' depth ((c, quoted) :: s) = (c :: t) :: ps ↔
      splitAtDepth ';' (depthAfter depth c quoted) s = t :: ps := by
  simp [splitAtDepth_keep hc]

theorem shadeFrom_outside (c : Char) (s : List Char) :
    shadeFrom false (c :: s) = (c, decide (c = '"')) :: shadeFrom (decide (c = '"')) s := by
  simp [shadeFrom]

theorem shadeFrom_inside {c : Char} (hc : c ≠ '$') (s : List Char) :
    shadeFrom true (c :: s) = (c, true) :: shadeFrom (decide (c ≠ '"')) s := by
  rw [shadeFrom]
  · simp
  · simp [hc]
  · simp [hc]

theorem shadeFrom_escape (c : Char) (s : List Char) :
    shadeFrom true ('$' :: c :: s) = ('$', true) :: (c, true) :: shadeFrom true s := rfl

/-- Texts from inside a quoted stretch and from outside, as they are marked. -/
theorem quoting_induction {motive : Bool → List Char → Prop} (nil : ∀ inside, motive inside [])
    (dollar : motive true ['$']) (escape : ∀ c s, motive true s → motive true ('$' :: c :: s))
    (inner : ∀ c s, c ≠ '$' → motive (decide (c ≠ '"')) s → motive true (c :: s))
    (outer : ∀ c s, motive (decide (c = '"')) s → motive false (c :: s)) (inside : Bool) (s : List Char) :
    motive inside s := by
  fun_induction shadeFrom inside s with
  | case1 inside => exact nil inside
  | case2 => exact dollar
  | case3 c s ih => exact escape c s ih
  | case4 inside c s hend hescape ih =>
    cases inside with
    | true =>
      refine inner c s ?_ (by simpa using ih)
      rintro rfl
      cases s with
      | nil => exact hend rfl rfl rfl
      | cons d s => exact hescape d s rfl rfl rfl
    | false => exact outer c s (by simpa using ih)

/-! ### Sealed texts -/

namespace Sealed
variable {depth : Nat} {c : Char} {s : List Char}

theorem nil_iff : Sealed false depth [] ↔ depth = 0 := by
  constructor
  · intro h
    cases h
    rfl
  · rintro rfl
    exact .done

/-- Outside of quotes a character is passed over unless it is a semicolon outside of groups. -/
theorem outside_iff : Sealed false depth (c :: s) ↔
    ¬ (c = ';' ∧ depth = 0) ∧ Sealed (decide (c = '"')) (depthAfter depth c (decide (c = '"'))) s := by
  constructor
  · intro h
    cases h with
    | plain hc hs =>
      refine ⟨fun he => hc (by simp [marks, he.1]), ?_⟩
      rw [ne_quote_of_plain hc, depthAfter_plain hc]
      exact hs
    | semicolon hs => exact ⟨by simp, hs⟩
    | opening hc hs =>
      simp only [List.mem_cons, List.not_mem_nil, or_false] at hc
      rcases hc with rfl | rfl
      · exact ⟨by simp, hs⟩
      · exact ⟨by simp, hs⟩
    | closing hc hs =>
      simp only [List.mem_cons, List.not_mem_nil, or_false] at hc
      rcases hc with rfl | rfl
      · exact ⟨by simp, hs⟩
      · exact ⟨by simp, hs⟩
    | quote hs => exact ⟨by simp, hs⟩
  · rintro ⟨hcut, hs⟩
    by_cases hc : c ∈ marks
    · simp only [marks, List.mem_cons, List.not_mem_nil, or_false] at hc
      rcases hc with rfl | rfl | rfl | rfl | rfl | rfl
      · exact .quote hs
      · exact .opening (by simp) hs
      · exact .opening (by simp) hs
      · exact .closing (by simp) hs
      · exact .closing (by simp) hs
      · obtain ⟨d, rfl⟩ := Nat.exists_eq_succ_of_ne_zero fun hd => hcut ⟨rfl, hd⟩
        exact .semicolon hs
    · rw [ne_quote_of_plain hc, depthAfter_plain hc] at hs
      exact .plain hc hs

theorem not_inside_nil : ¬ Sealed true depth [] := by
  intro h
  cases h

theorem escape_iff : Sealed true depth ('$' :: c :: s) ↔ Sealed true depth s := by
  refine ⟨fun h => ?_, .escape⟩
  cases h with
  | escape hs => exact hs
  | quoted hc _ => exact absurd (by simp) hc

theorem not_inside_dollar : ¬ Sealed true depth ['$'] := by
  intro h
  cases h with
  | quoted hc _ => exact absurd (by simp) hc

theorem inside_iff (hc : c ≠ '$') : Sealed true depth (c :: s) ↔ Sealed (decide (c ≠ '"')) depth s := by
  by_cases hquote : c = '"'
  · subst hquote
    refine ⟨fun h => ?_, .unquote⟩
    cases h with
    | unquote hs => exact hs
    | quoted hc' _ => exact absurd (by simp) hc'
  · rw [decide_eq_true hquote]
    refine ⟨fun h => ?_, .quoted (by simp [hc, hquote])⟩
    cases h with
    | unquote _ => exact absurd rfl hquote
    | escape _ => exact absurd rfl hc
    | quoted _ hs => exact hs

instance decidable : (inside : Bool) → (depth : Nat) → (s : List Char) → Decidable (Sealed inside depth s)
  | false, _, [] => decidable_of_iff _ nil_iff.symm
  | true, _, [] => .isFalse not_inside_nil
  | false, depth, c :: s =>
    have := decidable (decide (c = '"')) (depthAfter depth c (decide (c = '"'))) s
    decidable_of_iff _ outside_iff.symm
  | true, depth, c :: s =>
    if hc : c = '$' then
      match s with
      | [] => .isFalse (hc ▸ not_inside_dollar)
      | _ :: s =>
        have := decidable true depth s
        decidable_of_iff (Sealed true depth s) (hc ▸ escape_iff.symm)
    else
      have := decidable (decide (c ≠ '"')) depth s
      decidable_of_iff _ (inside_iff hc).symm

end Sealed

/-- The semicolon after a text ends the first piece if the text is sealed, and only then. -/
theorem split_iff_sealed (inside : Bool) (depth : Nat) (s rest : List Char) (ps : List (List Char)) :
    splitAtDepth ';' depth (shadeFrom inside (s ++ ';' :: rest)) = s :: ps ↔
      Sealed inside depth s ∧ splitAtDepth ';' 0 (shadeFrom false rest) = ps := by
  -- along the marking of the text, for any number of open groups
  induction inside, s using quoting_induction generalizing depth with
  | nil inside =>
    rw [List.nil_append]
    cases inside with
    | true =>
      rw [shadeFrom_inside (by decide), splitAtDepth_keep (by simp)]
      exact iff_of_false (by simp) fun h => Sealed.not_inside_nil h.1
    | false =>
      rw [shadeFrom_outside, Sealed.nil_iff]
      by_cases hdepth : depth = 0
      · subst hdepth
        simpa using congrArg (· = [] :: ps) (splitAtDepth_cut (shadeFrom false rest))
      · rw [splitAtDepth_keep (by simp [hdepth])]
        exact iff_of_false (by simp) fun h => hdepth h.1
  | dollar =>
    -- the dollar sign takes the semicolon with it
    rw [List.cons_append, List.nil_append, shadeFrom_escape, splitAtDepth_keep_cons (by simp),
      splitAtDepth_keep (by simp)]
    exact iff_of_false (by simp) fun h => Sealed.not_inside_dollar h.1
  | escape c s ih =>
    rw [List.cons_append, List.cons_append, shadeFrom_escape, splitAtDepth_keep_cons (by simp),
      splitAtDepth_keep_cons (by simp), Sealed.escape_iff]
    exact ih depth
  | inner c s hc ih =>
    rw [List.cons_append, shadeFrom_inside hc, splitAtDepth_keep_cons (by simp), Sealed.inside_iff hc]
    exact ih depth
  | outer c s ih =>
    rw [List.cons_append, shadeFrom_outside, Sealed.outside_iff]
    by_cases hcut : c = ';' ∧ depth = 0
    · obtain ⟨rfl, rfl⟩ := hcut
      rw [show decide (';' = '"') = false from rfl, splitAtDepth_cut]
      exact iff_of_false (by simp) fun h => h.1.1 ⟨rfl, rfl⟩
    · rw [splitAtDepth_keep_cons fun h => hcut h.2, and_assoc, and_iff_right hcut]
      exact ih _

namespace Sealed
variable {inside : Bool} {depth : Nat} {s t : List Char}

/-- What follows a sealed text is read as if it stood alone. -/
theorem append_iff (h : Sealed inside depth s) : Sealed inside depth (s ++ t) ↔ Sealed false 0 t := by
  induction inside, s using quoting_induction generalizing depth with
  | nil inside =>
    cases h
    rfl
  | dollar => exact absurd h not_inside_dollar
  | escape c s ih => exact escape_iff.trans (ih (escape_iff.1 h))
  | inner c s hc ih => exact (inside_iff hc).trans (ih ((inside_iff hc).1 h))
  | outer c s ih =>
    obtain ⟨hcut, hs⟩ := outside_iff.1 h
    rw [List.cons_append, outside_iff, and_iff_right hcut]
    exact ih hs

end Sealed

/-- Texts without quotes, groups and semicolons. -/
def IsPlain (s : List Char) : Prop := ∀ c ∈ s, c ∉ marks

instance (s : List Char) : Decidable (IsPlain s) :=
  List.decidableBAll (fun c => c ∉ marks) s

theorem IsPlain.sealed {s : List Char} (h : IsPlain s) : Sealed false 0 s := by
  induction s with
  | nil => exact .done
  | cons c s ih => exact .plain (h c (by simp)) (ih fun d hd => h d (List.mem_cons_of_mem _ hd))

theorem isPlain_of_blank {s : List Char} (h : IsBlankText s) : IsPlain s := (.of_blank (by decide) h : Avoids marks s)

theorem IsPlain.of_sealed {s : List Char} {inside : Bool} {depth : Nat} (h : IsPlain s) (hs : Sealed inside depth s) :
    Sealed inside depth [] := by
  induction inside, s using quoting_induction generalizing depth with
  | nil inside => exact hs
  | dollar => exact absurd hs Sealed.not_inside_dollar
  | escape c s ih => exact ih (fun d hd => h d (by simp [hd])) (Sealed.escape_iff.1 hs)
  | inner c s hc ih =>
    have hquote : c ≠ '"' := fun hq => h c (by simp) (by simp [marks, hq])
    have hs := (Sealed.inside_iff hc).1 hs
    rw [decide_eq_true hquote] at hs ih
    exact ih (fun d hd => h d (List.mem_cons_of_mem _ hd)) hs
  | outer c s ih =>
    have hc := h c (by simp)
    obtain ⟨-, hs⟩ := Sealed.outside_iff.1 hs
    rw [ne_quote_of_plain hc] at hs ih
    rw [depthAfter_plain hc] at hs
    exact ih (fun d hd => h d (List.mem_cons_of_mem _ hd)) hs

theorem sealed_append_plain {s t : List Char} {inside : Bool} {depth : Nat} (ht : IsPlain t) :
    Sealed inside depth (s ++ t) ↔ Sealed inside depth s := by
  refine ⟨fun h => ?_, fun h => h.append_iff.2 ht.sealed⟩
  induction inside, s using quoting_induction generalizing depth with
  | nil inside => exact ht.of_sealed h
  | dollar =>
    cases t with
    | nil => exact h
    | cons d t =>
      have hs : Sealed true depth t := Sealed.escape_iff.1 h
      have htail : IsPlain t := fun c hc => ht c (List.mem_cons_of_mem _ hc)
      exact absurd (htail.of_sealed hs) Sealed.not_inside_nil
  | escape c s ih => exact Sealed.escape_iff.2 (ih (Sealed.escape_iff.1 h))
  | inner c s hc ih => exact (Sealed.inside_iff hc).2 (ih ((Sealed.inside_iff hc).1 h))
  | outer c s ih =>
    obtain ⟨hcut, hs⟩ := Sealed.outside_iff.1 h
    exact Sealed.outside_iff.2 ⟨hcut, ih hs⟩

/-! ### Statements -/

/-- The lines of a block as one text: blank ones left out, and a blank between any two. -/
def blockText (lines : List (List Char)) : List Char := joined [' '] ((lines.map trim).filter (· ≠ []))

def statementsOf (s : List Char) : List (List Char) := ((splitTop ';' s).map trim).filter (· ≠ [])

theorem statements_eq (lines : List (List Char)) : statements lines = statementsOf (blockText lines) := rfl

theorem count_blank {b : List Char} (h : IsBlankText b) : b.count ';' = 0 := by
  rw [List.count_eq_zero]
  exact fun hm => isPlain_of_blank h ';' hm (by decide)

theorem count_trim (s : List Char) : (trim s).count ';' = s.count ';' := by
  obtain ⟨b, a, hb, ha, hs⟩ := exists_trim s
  have hcount := congrArg (List.count ';') hs
  rw [List.count_append, List.count_append, count_blank hb, count_blank ha] at hcount
  omega

theorem eq_of_count_eq {p s r t : List Char} (h : p ++ ';' :: r = s ++ ';' :: t) (hc : p.count ';' = s.count ';') :
    p = s := by
  induction p generalizing s with
  | nil =>
    cases s with
    | nil => rfl
    | cons c s =>
      obtain ⟨rfl, -⟩ := List.cons.inj h
      simp at hc
  | cons d p ih =>
    cases s with
    | nil =>
      obtain ⟨rfl, -⟩ := List.cons.inj h
      simp at hc
    | cons c s =>
      obtain ⟨rfl, ht⟩ := List.cons.inj h
      rw [ih ht (by simpa [List.count_cons] using hc)]

theorem first_piece {sep : Char} {depth : Nat} {s : Shaded} {p : List Char} {ps : List (List Char)}
    (h : splitAtDepth sep depth s = p :: ps) : s.chars = p ∧ ps = [] ∨ ∃ r, s.chars = p ++ sep :: r := by
  induction s generalizing depth p ps with
  | nil =>
    obtain ⟨rfl, rfl⟩ := List.cons.inj h
    exact .inl ⟨rfl, rfl⟩
  | cons x s ih =>
    obtain ⟨c, quoted⟩ := x
    obtain ⟨t, ts, hs⟩ := List.exists_cons_of_ne_nil (splitAtDepth_ne_nil sep (depthAfter depth c quoted) s)
    rw [splitAtDepth_cons, hs] at h
    simp only [Bool.and_eq_true, decide_eq_true_eq] at h
    split at h
    · rename_i hcut
      obtain ⟨rfl, -⟩ := List.cons.inj h
      exact .inr ⟨Shaded.chars s, congrArg (· :: Shaded.chars s) hcut.1.2⟩
    · obtain ⟨rfl, rfl⟩ := List.cons.inj h
      rcases ih hs with ⟨hall, hts⟩ | ⟨r, hr⟩
      · exact .inl ⟨congrArg (c :: ·) hall, hts⟩
      · exact .inr ⟨r, congrArg (c :: ·) hr⟩

/-- Texts in which something else comes before any semicolon. -/
def Begins (s : List Char) : Prop := ∃ b x t, IsBlankText b ∧ isBlank x = false ∧ x ≠ ';' ∧ s = b ++ x :: t

theorem Begins.not_blank {s : List Char} (h : Begins s) : ¬ IsBlankText s := by
  obtain ⟨b, x, t, -, hx, -, rfl⟩ := h
  intro hs
  have hblank := hs x (by simp)
  rw [hx] at hblank
  cases hblank

theorem Begins.ne_append {s p r : List Char} (h : Begins s) (hp : IsBlankText p) : s ≠ p ++ ';' :: r := by
  obtain ⟨b, x, t, hb, hx, hsemicolon, rfl⟩ := h
  intro he
  have hxp : x ∉ p := fun hm => by
    rw [hp x hm] at hx
    cases hx
  have hsb : ';' ∉ b := fun hm => absurd (hb ';' hm) (by decide)
  rcases List.append_eq_append_iff.1 he with ⟨u, rfl, hu⟩ | ⟨u, rfl, hu⟩
  · cases u with
    | nil => exact hsemicolon (List.cons.inj hu).1
    | cons d u =>
      obtain ⟨rfl, -⟩ := List.cons.inj hu
      simp at hxp
  · cases u with
    | nil => exact hsemicolon (List.cons.inj hu).1.symm
    | cons d u =>
      obtain ⟨rfl, -⟩ := List.cons.inj hu
      simp at hsb

theorem Begins.append {s : List Char} (h : Begins s) (t : List Char) : Begins (s ++ t) := by
  obtain ⟨b, x, u, hb, hx, hsemicolon, rfl⟩ := h
  exact ⟨b, x, u ++ t, hb, hx, hsemicolon, by simp⟩

theorem statementsOf_eq {s p : List Char} {ps : List (List Char)} (h : splitTop ';' s = p :: ps) :
    statementsOf s = (if trim p = [] then [] else [trim p]) ++ (ps.map trim).filter (· ≠ []) := by
  rw [statementsOf, h, List.map_cons, List.filter_cons]
  by_cases hp : trim p = []
  · simp [hp]
  · simp [hp]

theorem statementsOf_append {s : List Char} (h : Sealed false 0 s) (hs : Begins s) (rest : List Char) :
    statementsOf (s ++ ';' :: rest) = trim s :: statementsOf rest := by
  have hsplit : splitTop ';' (s ++ ';' :: rest) = s :: splitTop ';' rest := (split_iff_sealed _ _ _ _ _).2 ⟨h, rfl⟩
  rw [statementsOf_eq hsplit, if_neg (mt (trim_eq_nil_iff s).1 hs.not_blank)]
  rfl

theorem sealed_of_statementsOf {s rest : List Char} (hs : Begins s) {l : List (List Char)}
    (h : statementsOf (s ++ ';' :: rest) = trim s :: l) : Sealed false 0 s := by
  obtain ⟨p, ps, hsplit⟩ := List.exists_cons_of_ne_nil (splitAtDepth_ne_nil ';' 0 (shade (s ++ ';' :: rest)))
  have hfirst := first_piece hsplit
  rw [shade_chars] at hfirst
  have hp : ¬ IsBlankText p := by
    intro hp
    rcases hfirst with ⟨hall, -⟩ | ⟨r, hr⟩
    · exact (hs.append _).not_blank (hall ▸ hp)
    · exact (hs.append _).ne_append hp hr
  rw [statementsOf_eq hsplit, if_neg (mt (trim_eq_nil_iff p).1 hp)] at h
  -- trimming loses where a piece began but none of its semicolons
  have hcount : p.count ';' = s.count ';' := by
    rw [← count_trim p, (List.cons.inj h).1, count_trim]
  rcases hfirst with ⟨hall, -⟩ | ⟨r, hr⟩
  · -- the one piece would hold a semicolon more than the text
    rw [← hall, List.count_append, List.count_cons_self] at hcount
    omega
  · obtain rfl := eq_of_count_eq hr.symm hcount
    exact ((split_iff_sealed _ _ _ _ _).1 hsplit).1

theorem statementsOf_blank {s : List Char} (h : IsBlankText s) : statementsOf s = [] := by
  obtain ⟨p, ps, hsplit⟩ := List.exists_cons_of_ne_nil (splitAtDepth_ne_nil ';' 0 (shade s))
  rcases first_piece hsplit with ⟨hall, rfl⟩ | ⟨r, hr⟩
  · rw [shade_chars] at hall
    rw [statementsOf_eq hsplit, ← hall, if_pos ((trim_eq_nil_iff s).2 h)]
    rfl
  · rw [shade_chars] at hr
    exact absurd (h ';' (by simp [hr])) (by decide)

/-- Texts with a semicolon after each, and a last one. -/
def terminated (l : List (List Char)) (last : List Char) : List Char := (l.map (· ++ [';'])).flatten ++ last

/-- The texts before the semicolons are the statements if they are sealed, and only then. -/
theorem statementsOf_terminated_iff {l : List (List Char)} {last : List Char} (hl : ∀ s ∈ l, Begins s)
    (hlast : IsBlankText last) : statementsOf (terminated l last) = l.map trim ↔ ∀ s ∈ l, Sealed false 0 s := by
  induction l with
  | nil => exact iff_of_true (statementsOf_blank hlast) fun _ h => absurd h List.not_mem_nil
  | cons s l ih =>
    have hs : Begins s := hl s (by simp)
    have ih := ih fun t ht => hl t (List.mem_cons_of_mem _ ht)
    have htext : terminated (s :: l) last = s ++ ';' :: terminated l last := by simp [terminated]
    rw [htext, List.map_cons, List.forall_mem_cons]
    constructor
    · intro h
      have hsealed := sealed_of_statementsOf hs h
      rw [statementsOf_append hsealed hs] at h
      exact ⟨hsealed, ih.1 (List.cons.inj h).2⟩
    · rintro ⟨hsealed, hrest⟩
      rw [statementsOf_append hsealed hs, ih.2 hrest]

end LadderAtlas.L5k
