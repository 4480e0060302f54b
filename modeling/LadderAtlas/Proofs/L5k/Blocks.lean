import LadderAtlas.L5k.Block

/-! # Blocks among lines

Lines in which every block is closed are collected as if nothing followed them (`collect_append`), and a
written block is collected with its body, whatever follows (`collect_lines`). So the blocks of a file can be
told one part of its lines after the other. -/

namespace LadderAtlas.L5k
open Text

/-- No line begins with a word. -/
def Unled (word : String) (lines : List (List Char)) : Prop := ∀ l ∈ lines, leadingWord (trim l) ≠ some word

instance (word : String) (lines : List (List Char)) : Decidable (Unled word lines) :=
  List.decidableBAll (fun l => leadingWord (trim l) ≠ some word) lines

theorem Unled.append {word : String} {l m : List (List Char)} (hl : Unled word l) (hm : Unled word m) :
    Unled word (l ++ m) := by
  intro s hs
  rcases List.mem_append.1 hs with hs | hs
  · exact hl s hs
  · exact hm s hs

namespace Block
variable {keyword : String} {keywords : List String} {line : List Char} {lines more : List (List Char)}

/-! ### Headers and bodies -/

/-- What follows a header that is complete does not belong to it. -/
theorem header_append {text : List Char}
    (h : (header text lines).2 ≠ [] ∨ parenDepth (header text lines).1 ≤ 0) :
    header text (lines ++ more) = ((header text lines).1, (header text lines).2 ++ more) := by
  induction lines generalizing text with
  | nil =>
    have hdepth : ¬ 0 < parenDepth text := by
      rcases h with h | h
      · exact absurd rfl h
      · exact Int.not_lt.2 h
    cases more with
    | nil => rfl
    | cons m more => simp [header, hdepth]
  | cons line lines ih =>
    by_cases hdepth : 0 < parenDepth text
    · have hgo : header text (line :: lines) = header (text ++ '\n' :: trim line) lines := if_pos hdepth
      have hgo' : header text (line :: lines ++ more) = header (text ++ '\n' :: trim line) (lines ++ more) :=
        if_pos hdepth
      rw [hgo] at h ⊢
      rw [hgo']
      exact ih h
    · have hstop : header text (line :: lines) = (text, line :: lines) := if_neg hdepth
      have hstop' : header text (line :: lines ++ more) = (text, line :: lines ++ more) := if_neg hdepth
      rw [hstop, hstop']

theorem bodyOf_append {depth : Nat} {inner after : List (List Char)}
    (h : bodyOf keyword depth lines = some (inner, after)) :
    bodyOf keyword depth (lines ++ more) = some (inner, after ++ more) := by
  induction lines generalizing depth inner with
  | nil => cases h
  | cons line lines ih =>
    have keep : ∀ d : Nat, (bodyOf keyword d lines).map (fun p => (line :: p.1, p.2)) = some (inner, after) →
        (bodyOf keyword d (lines ++ more)).map (fun p => (line :: p.1, p.2)) = some (inner, after ++ more) := by
      intro d hd
      obtain ⟨⟨i, a⟩, hb, he⟩ := Option.map_eq_some_iff.1 hd
      obtain ⟨rfl, rfl⟩ := Prod.mk.inj he
      rw [ih hb]
      rfl
    rw [List.cons_append]
    simp only [bodyOf] at h ⊢
    split
    · rename_i hword
      rw [if_pos hword] at h
      exact keep _ h
    · rename_i hword
      rw [if_neg hword] at h
      split
      · rename_i hend
        rw [if_pos hend] at h
        cases depth with
        | zero =>
          obtain ⟨rfl, rfl⟩ := Prod.mk.inj (Option.some.inj h)
          rfl
        | succ d => exact keep d h
      · rename_i hend
        rw [if_neg hend] at h
        exact keep _ h

theorem bodyOf_unled (hopen : Unled keyword lines) (hclose : Unled ("END_" ++ keyword) lines)
    (hend : leadingWord (trim line) = some ("END_" ++ keyword)) :
    bodyOf keyword 0 (lines ++ line :: more) = some (lines, more) := by
  induction lines with
  | nil => simp [bodyOf, hend]
  | cons l lines ih =>
    have hl := hopen l (by simp)
    have hl' := hclose l (by simp)
    rw [List.cons_append]
    simp only [bodyOf, if_neg hl, if_neg hl']
    rw [ih (fun s hs => hopen s (by simp [hs])) (fun s hs => hclose s (by simp [hs]))]
    rfl

/-! ### Collecting -/

theorem collect_skip (h : ∀ k ∈ keywords, leadingWord (trim line) ≠ some k) :
    collect keywords (line :: lines) = collect keywords lines := by
  rw [collect]
  split
  · rfl
  · rename_i k hk
    have hmem : keywords.contains k = false := by
      rw [← Bool.not_eq_true, List.contains_iff_mem]
      exact fun hm => h k hm hk
    rw [hmem]
    rfl

/-- The block that begins with a line. -/
def begun (keyword : String) (text : List Char) (body : List (List Char)) : Block :=
  let (name, attributes) := readHeader (text.drop keyword.length)
  ⟨keyword, name, attributes, body⟩

theorem collect_begun (hword : leadingWord (trim line) = some keyword) (hk : keyword ∈ keywords)
    {inner after : List (List Char)} (hbody : bodyOf keyword 0 (header (trim line) lines).2 = some (inner, after)) :
    collect keywords (line :: lines) =
      (collect keywords after).map (begun keyword (header (trim line) lines).1 inner :: ·) := by
  rw [collect]
  split
  · rename_i hnone
    rw [hword] at hnone
    cases hnone
  · rename_i k hsome
    rw [hword] at hsome
    obtain rfl := Option.some.inj hsome
    rw [if_pos (List.contains_iff_mem.2 hk)]
    simp only
    split
    · rename_i hnone
      rw [hbody] at hnone
      cases hnone
    · rename_i hsome
      rw [hbody] at hsome
      obtain ⟨rfl, rfl⟩ := Prod.mk.inj (Option.some.inj hsome)
      rfl

theorem collect_append {bs : List Block} (h : collect keywords lines = .ok bs) :
    collect keywords (lines ++ more) = (collect keywords more).map (bs ++ ·) := by
  fun_induction collect keywords lines generalizing bs with
  | case1 =>
    obtain rfl := Except.ok.inj h
    rw [List.nil_append]
    cases collect keywords more <;> rfl
  | case2 line lines hword ih =>
    rw [List.cons_append, collect_skip (by simp [hword])]
    exact ih h
  | case3 => cases h
  | case4 line lines keyword hword hk text name attributes hheader inner after hbody =>
    rename_i ih
    cases hafter : collect keywords after with
    | error e =>
      rw [hafter] at h
      cases h
    | ok l =>
      rw [hafter] at h
      obtain rfl := Except.ok.inj h
      -- a body was found, so lines are left after the header
      have hne : text.2 ≠ [] := by
        intro hnil
        rw [hnil] at hbody
        cases hbody
      have hblock : begun keyword text.1 inner = ⟨keyword, name, attributes, inner⟩ := by
        rw [begun, hheader]
      have htext : header (trim line) (lines ++ more) = (text.1, text.2 ++ more) := header_append (.inl hne)
      have hbody' : bodyOf keyword 0 (header (trim line) (lines ++ more)).2 = some (inner, after ++ more) := by
        rw [htext]
        exact bodyOf_append hbody
      rw [List.cons_append, collect_begun hword (List.contains_iff_mem.1 hk) hbody', htext, hblock, ih hafter]
      cases collect keywords more <;> rfl
  | case5 line lines keyword hword hk ih =>
    have hskip : ∀ k ∈ keywords, leadingWord (trim line) ≠ some k := by
      intro k hmem he
      rw [hword] at he
      exact hk (List.contains_iff_mem.2 (Option.some.inj he ▸ hmem))
    rw [List.cons_append, collect_skip hskip]
    exact ih h

theorem collect_unled (h : ∀ k ∈ keywords, Unled k lines) : collect keywords lines = .ok [] := by
  induction lines with
  | nil => rw [collect]
  | cons line lines ih =>
    rw [collect_skip fun k hk => h k hk line (by simp)]
    exact ih fun k hk s hs => h k hk s (List.mem_cons_of_mem _ hs)

end Block

/-! ### Written blocks -/

/-- A block as it is written: the line that opens it, further lines of its header, its body, and the line
that closes it. -/
structure BlockText where
  opening : List Char
  header : List (List Char) := []
  body : List (List Char)
  closing : List Char

namespace BlockText

def lines (b : BlockText) : List (List Char) := b.opening :: (b.header ++ (b.body ++ [b.closing]))

def block (keyword : String) (b : BlockText) : Block :=
  .begun keyword (Block.header (trim b.opening) b.header).1 b.body

/-- The block begins and ends with the words of its keyword, its header goes on as long as parentheses are
open, and no other block of the keyword begins or ends in its body. -/
structure IsBlock (keyword : String) (b : BlockText) : Prop where
  opening : leadingWord (trim b.opening) = some keyword
  header : (Block.header (trim b.opening) b.header).2 = []
  closed : parenDepth (Block.header (trim b.opening) b.header).1 ≤ 0
  outermost : Unled keyword b.body
  undivided : Unled ("END_" ++ keyword) b.body
  closing : leadingWord (trim b.closing) = some ("END_" ++ keyword)

instance (keyword : String) (b : BlockText) : Decidable (b.IsBlock keyword) :=
  decidable_of_iff
    ((leadingWord (trim b.opening) = some keyword ∧ (Block.header (trim b.opening) b.header).2 = [] ∧
      parenDepth (Block.header (trim b.opening) b.header).1 ≤ 0) ∧
      Unled keyword b.body ∧ Unled ("END_" ++ keyword) b.body ∧ leadingWord (trim b.closing) = some ("END_" ++ keyword))
    ⟨fun ⟨⟨ho, hh, hd⟩, hu, he, hc⟩ => ⟨ho, hh, hd, hu, he, hc⟩,
      fun h => ⟨⟨h.opening, h.header, h.closed⟩, h.outermost, h.undivided, h.closing⟩⟩

theorem IsBlock.collect_lines {keyword : String} {keywords : List String} {b : BlockText} (h : b.IsBlock keyword)
    (hk : keyword ∈ keywords) (more : List (List Char)) :
    Block.collect keywords (b.lines ++ more) = (Block.collect keywords more).map (b.block keyword :: ·) := by
  have hlines : b.lines ++ more = b.opening :: (b.header ++ (b.body ++ b.closing :: more)) := by simp [lines]
  have hheader : Block.header (trim b.opening) (b.header ++ (b.body ++ b.closing :: more)) = _ :=
    Block.header_append (.inr h.closed)
  rw [h.header, List.nil_append] at hheader
  have hbody : Block.bodyOf keyword 0 (Block.header (trim b.opening) (b.header ++ (b.body ++ b.closing :: more))).2 =
      some (b.body, more) := by
    rw [hheader]
    exact Block.bodyOf_unled h.outermost h.undivided h.closing
  rw [hlines, Block.collect_begun h.opening hk hbody, hheader, block]

end BlockText

end LadderAtlas.L5k
