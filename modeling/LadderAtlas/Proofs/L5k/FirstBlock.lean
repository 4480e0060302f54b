import LadderAtlas.Proofs.L5k.Blocks

/-!
# The first block of a keyword

Blocks of a keyword nest, so the line that closes one is the first whose prefix has as many closing lines as
opening ones (`Block.bodyOf_eq_some_iff`). Lines that are cut off before it have not closed the block: `collect`
skips what stands before the opening line (`FirstBlock.collect_before`) and then misses the end, wherever in
header or body the cut falls (`FirstBlock.collect_cut`).
-/

namespace LadderAtlas.L5k
open Text

/-- How many lines begin with a word. -/
def ledBy (word : String) (lines : List (List Char)) : Nat :=
  lines.countP fun l => leadingWord (trim l) = some word

section
variable {keyword : String} {keywords : List String} {depth : Nat} {line : List Char}
  {lines inner after more : List (List Char)}

@[simp] theorem ledBy_nil (word : String) : ledBy word [] = 0 := rfl

theorem ledBy_cons (word : String) (line : List Char) (lines : List (List Char)) :
    ledBy word (line :: lines) = ledBy word lines + if leadingWord (trim line) = some word then 1 else 0 := by
  rw [ledBy, List.countP_cons, ← ledBy]
  simp only [decide_eq_true_eq]

/-- No prefix closes more blocks than it opens, when `depth` are open at the start. -/
def Within (keyword : String) (depth : Nat) (lines : List (List Char)) : Prop :=
  ∀ p, p <+: lines → ledBy ("END_" ++ keyword) p ≤ depth + ledBy keyword p

theorem ne_ends (keyword : String) : keyword ≠ "END_" ++ keyword := Ne.symm (by simp)

namespace Within

theorem nil : Within keyword depth [] := by
  intro p hp
  rw [List.prefix_nil.1 hp]
  simp

theorem cons_iff : Within keyword depth (line :: lines) ↔
    ∀ p, p <+: lines → ledBy ("END_" ++ keyword) (line :: p) ≤ depth + ledBy keyword (line :: p) := by
  constructor
  · intro h p hp
    exact h (line :: p) ((List.prefix_cons_inj line).2 hp)
  · intro h p hp
    rcases List.prefix_cons_iff.1 hp with rfl | ⟨t, rfl, ht⟩
    · simp
    · exact h t ht

theorem opening (hword : leadingWord (trim line) = some keyword) :
    Within keyword depth (line :: lines) ↔ Within keyword (depth + 1) lines := by
  rw [cons_iff]
  refine forall₂_congr fun p _ => ?_
  rw [ledBy_cons, ledBy_cons, hword, if_neg (by simp [ne_ends]), if_pos rfl]
  omega

theorem closing_zero (hword : leadingWord (trim line) = some ("END_" ++ keyword)) :
    ¬ Within keyword 0 (line :: lines) := by
  rw [cons_iff]
  intro h
  have hone := h [] List.nil_prefix
  rw [ledBy_cons, ledBy_cons, hword, if_pos rfl, if_neg (by simp)] at hone
  simp at hone

theorem closing_succ (hword : leadingWord (trim line) = some ("END_" ++ keyword)) :
    Within keyword (depth + 1) (line :: lines) ↔ Within keyword depth lines := by
  rw [cons_iff]
  refine forall₂_congr fun p _ => ?_
  rw [ledBy_cons, ledBy_cons, hword, if_pos rfl, if_neg (by simp)]
  omega

theorem other (hopen : leadingWord (trim line) ≠ some keyword)
    (hclose : leadingWord (trim line) ≠ some ("END_" ++ keyword)) :
    Within keyword depth (line :: lines) ↔ Within keyword depth lines := by
  rw [cons_iff]
  refine forall₂_congr fun p _ => ?_
  rw [ledBy_cons, ledBy_cons, if_neg hopen, if_neg hclose]
  exact Iff.rfl

theorem mono (h : Within keyword depth (lines ++ more)) : Within keyword depth lines :=
  fun p hp => h p (hp.trans (List.prefix_append lines more))

end Within

/-- The lines of a body up to the line that closes the block: they close what they open and the `depth` blocks
open at the start, and no more at any place. -/
structure IsInner (keyword : String) (depth : Nat) (inner : List (List Char)) : Prop where
  within : Within keyword depth inner
  even : ledBy ("END_" ++ keyword) inner = depth + ledBy keyword inner

namespace IsInner

theorem opening_iff (hword : leadingWord (trim line) = some keyword) :
    IsInner keyword depth (line :: inner) ↔ IsInner keyword (depth + 1) inner := by
  have heven : ledBy ("END_" ++ keyword) (line :: inner) = depth + ledBy keyword (line :: inner) ↔
      ledBy ("END_" ++ keyword) inner = depth + 1 + ledBy keyword inner := by
    rw [ledBy_cons, ledBy_cons, hword, if_neg (by simp [ne_ends]), if_pos rfl]
    omega
  exact ⟨fun h => ⟨(Within.opening hword).1 h.within, heven.1 h.even⟩,
    fun h => ⟨(Within.opening hword).2 h.within, heven.2 h.even⟩⟩

theorem closing_iff (hword : leadingWord (trim line) = some ("END_" ++ keyword)) :
    IsInner keyword (depth + 1) (line :: inner) ↔ IsInner keyword depth inner := by
  have heven : ledBy ("END_" ++ keyword) (line :: inner) = depth + 1 + ledBy keyword (line :: inner) ↔
      ledBy ("END_" ++ keyword) inner = depth + ledBy keyword inner := by
    rw [ledBy_cons, ledBy_cons, hword, if_pos rfl, if_neg (by simp)]
    omega
  exact ⟨fun h => ⟨(Within.closing_succ hword).1 h.within, heven.1 h.even⟩,
    fun h => ⟨(Within.closing_succ hword).2 h.within, heven.2 h.even⟩⟩

theorem other_iff (hopen : leadingWord (trim line) ≠ some keyword)
    (hclose : leadingWord (trim line) ≠ some ("END_" ++ keyword)) :
    IsInner keyword depth (line :: inner) ↔ IsInner keyword depth inner := by
  have heven : ledBy ("END_" ++ keyword) (line :: inner) = depth + ledBy keyword (line :: inner) ↔
      ledBy ("END_" ++ keyword) inner = depth + ledBy keyword inner := by
    rw [ledBy_cons, ledBy_cons, if_neg hopen, if_neg hclose]
    exact Iff.rfl
  exact ⟨fun h => ⟨(Within.other hopen hclose).1 h.within, heven.1 h.even⟩,
    fun h => ⟨(Within.other hopen hclose).2 h.within, heven.2 h.even⟩⟩

/-- What follows a body closes no block of its own accord. -/
theorem within_append (h : IsInner keyword 0 inner) (hmore : Unled ("END_" ++ keyword) more) :
    Within keyword 0 (inner ++ more) := by
  intro p hp
  rcases List.prefix_or_prefix_of_prefix hp (List.prefix_append inner more) with hp | ⟨q, rfl⟩
  · exact h.within p hp
  · have hnone : ledBy ("END_" ++ keyword) q = 0 := by
      refine List.countP_eq_zero.2 fun l hl => ?_
      simpa using hmore l (((List.prefix_append_right_inj inner).1 hp).subset hl)
    have heven := h.even
    simp only [ledBy, List.countP_append] at heven hnone ⊢
    omega

end IsInner

namespace Block

theorem bodyOf_eq_none_iff (keyword : String) (depth : Nat) (lines : List (List Char)) :
    bodyOf keyword depth lines = none ↔ Within keyword depth lines := by
  induction lines generalizing depth with
  | nil => exact iff_of_true rfl .nil
  | cons line lines ih =>
    simp only [bodyOf]
    split
    · rename_i hopen
      rw [Option.map_eq_none_iff, ih, Within.opening hopen]
    · rename_i hopen
      split
      · rename_i hclose
        cases depth with
        | zero => exact iff_of_false (by simp) (Within.closing_zero hclose)
        | succ depth =>
          show Option.map _ (bodyOf keyword depth lines) = none ↔ _
          rw [Option.map_eq_none_iff, ih, Within.closing_succ hclose]
      · rename_i hclose
        rw [Option.map_eq_none_iff, ih, Within.other hopen hclose]

instance (keyword : String) (depth : Nat) (lines : List (List Char)) : Decidable (Within keyword depth lines) :=
  decidable_of_iff _ (bodyOf_eq_none_iff keyword depth lines)

instance (keyword : String) (depth : Nat) (inner : List (List Char)) : Decidable (IsInner keyword depth inner) :=
  decidable_of_iff (Within keyword depth inner ∧ ledBy ("END_" ++ keyword) inner = depth + ledBy keyword inner)
    ⟨fun ⟨hwithin, heven⟩ => ⟨hwithin, heven⟩, fun h => ⟨h.within, h.even⟩⟩

theorem isInner_of_bodyOf (h : bodyOf keyword depth lines = some (inner, after)) : IsInner keyword depth inner ∧
    ∃ line, leadingWord (trim line) = some ("END_" ++ keyword) ∧ lines = inner ++ line :: after := by
  induction lines generalizing depth inner with
  | nil => cases h
  | cons line lines ih =>
    simp only [bodyOf] at h
    split at h
    · rename_i hopen
      obtain ⟨⟨rest, tail⟩, hrest, he⟩ := Option.map_eq_some_iff.1 h
      obtain ⟨rfl, rfl⟩ := Prod.mk.inj he
      obtain ⟨hinner, last, hlast, hlines⟩ := ih hrest
      exact ⟨(IsInner.opening_iff hopen).2 hinner, last, hlast, congrArg (line :: ·) hlines⟩
    · rename_i hopen
      split at h
      · rename_i hclose
        cases depth with
        | zero =>
          obtain ⟨rfl, rfl⟩ := Prod.mk.inj (Option.some.inj h)
          exact ⟨⟨.nil, rfl⟩, line, hclose, rfl⟩
        | succ depth =>
          obtain ⟨⟨rest, tail⟩, hrest, he⟩ := Option.map_eq_some_iff.1 h
          obtain ⟨rfl, rfl⟩ := Prod.mk.inj he
          obtain ⟨hinner, last, hlast, hlines⟩ := ih hrest
          exact ⟨(IsInner.closing_iff hclose).2 hinner, last, hlast, congrArg (line :: ·) hlines⟩
      · rename_i hclose
        obtain ⟨⟨rest, tail⟩, hrest, he⟩ := Option.map_eq_some_iff.1 h
        obtain ⟨rfl, rfl⟩ := Prod.mk.inj he
        obtain ⟨hinner, last, hlast, hlines⟩ := ih hrest
        exact ⟨(IsInner.other_iff hopen hclose).2 hinner, last, hlast, congrArg (line :: ·) hlines⟩

theorem bodyOf_isInner (h : IsInner keyword depth inner) (hline : leadingWord (trim line) = some ("END_" ++ keyword)) :
    bodyOf keyword depth (inner ++ line :: after) = some (inner, after) := by
  induction inner generalizing depth with
  | nil =>
    have hdepth : depth = 0 := by
      have heven := h.even
      simp at heven
      omega
    rw [hdepth]
    simp [bodyOf, hline]
  | cons l inner ih =>
    rw [List.cons_append]
    simp only [bodyOf]
    by_cases hopen : leadingWord (trim l) = some keyword
    · rw [if_pos hopen, ih ((IsInner.opening_iff hopen).1 h)]
      rfl
    · rw [if_neg hopen]
      by_cases hclose : leadingWord (trim l) = some ("END_" ++ keyword)
      · rw [if_pos hclose]
        cases depth with
        | zero => exact absurd h.within (Within.closing_zero hclose)
        | succ depth =>
          show Option.map _ (bodyOf keyword depth (inner ++ line :: after)) = _
          rw [ih ((IsInner.closing_iff hclose).1 h)]
          rfl
      · rw [if_neg hclose, ih ((IsInner.other_iff hopen hclose).1 h)]
        rfl

/-- The body ends before the line that closes the block, and only there. -/
theorem bodyOf_eq_some_iff : bodyOf keyword depth lines = some (inner, after) ↔ IsInner keyword depth inner ∧
    ∃ line, leadingWord (trim line) = some ("END_" ++ keyword) ∧ lines = inner ++ line :: after := by
  constructor
  · exact isInner_of_bodyOf
  · rintro ⟨hinner, line, hline, rfl⟩
    exact bodyOf_isInner hinner hline

/-- The lines of a header, and that it is complete unless no lines are left. -/
theorem exists_header (text : List Char) (lines : List (List Char)) : ∃ head,
    lines = head ++ (header text lines).2 ∧ header text head = ((header text lines).1, []) ∧
    ((header text lines).2 ≠ [] → parenDepth (header text lines).1 ≤ 0) := by
  induction lines generalizing text with
  | nil => exact ⟨[], rfl, rfl, fun h => absurd rfl h⟩
  | cons line lines ih =>
    by_cases hdepth : 0 < parenDepth text
    · have hgo : ∀ l, header text (line :: l) = header (text ++ '\n' :: trim line) l := fun l => if_pos hdepth
      obtain ⟨head, hlines, hhead, hclosed⟩ := ih (text ++ '\n' :: trim line)
      rw [hgo]
      exact ⟨line :: head, congrArg (line :: ·) hlines, (hgo head).trans hhead, hclosed⟩
    · have hstop : header text (line :: lines) = (text, line :: lines) := if_neg hdepth
      rw [hstop]
      exact ⟨[], rfl, rfl, fun _ => Int.not_lt.1 hdepth⟩

/-- A header that takes all lines takes all of their beginning. -/
theorem header_beginning {text : List Char} (h : (header text (lines ++ more)).2 = []) :
    (header text lines).2 = [] := by
  refine Decidable.byContradiction fun hne => ?_
  rw [header_append (.inl hne)] at h
  exact hne (List.append_eq_nil_iff.1 h).1

theorem collect_missing (hword : leadingWord (trim line) = some keyword) (hk : keyword ∈ keywords)
    (hbody : bodyOf keyword 0 (header (trim line) lines).2 = none) :
    collect keywords (line :: lines) =
      .error (.missingEnd keyword (begun keyword (header (trim line) lines).1 []).name) := by
  rw [collect]
  split
  · rename_i hnone
    rw [hword] at hnone
    cases hnone
  · rename_i k hsome
    rw [hword] at hsome
    obtain rfl := Option.some.inj hsome
    rw [if_pos (List.contains_iff_mem.2 hk)]
    simp only
    split
    · rfl
    · rename_i hsome
      rw [hbody] at hsome
      cases hsome

end Block

end

/-! ### The first block -/

/-- The first block of a keyword among lines, with what stands before and after it. Its header goes on as long
as parentheses are open, and its closing line is the one that matches. -/
structure FirstBlock (keyword : String) where
  before : List (List Char) := []
  block : BlockText
  after : List (List Char) := []
  before_unled : Unled keyword before
  opening : leadingWord (trim block.opening) = some keyword
  header : (Block.header (trim block.opening) block.header).2 = []
  header_closed : parenDepth (Block.header (trim block.opening) block.header).1 ≤ 0
  body : IsInner keyword 0 block.body
  closing : leadingWord (trim block.closing) = some ("END_" ++ keyword)

namespace FirstBlock
variable {keyword : String}

def lines (f : FirstBlock keyword) : List (List Char) := f.before ++ (f.block.lines ++ f.after)

/-- How many lines stand before the closing line. -/
def closingPlace (f : FirstBlock keyword) : Nat :=
  f.before.length + (1 + f.block.header.length + f.block.body.length)

/-- Lines of which a block is collected have a first one. -/
theorem exists_of_collect {lines : List (List Char)} {b : Block} {bs : List Block}
    (h : Block.collect [keyword] lines = .ok (b :: bs)) :
    ∃ f : FirstBlock keyword, f.lines = lines := by
  induction lines with
  | nil =>
    rw [Block.collect] at h
    cases h
  | cons line lines ih =>
    by_cases hword : leadingWord (trim line) = some keyword
    · cases hbody : Block.bodyOf keyword 0 (Block.header (trim line) lines).2 with
      | none =>
        have herror := Block.collect_missing hword (List.mem_singleton_self keyword) hbody
        rw [herror] at h
        cases h
      | some p =>
        obtain ⟨head, hlines, hhead, hclosed⟩ := Block.exists_header (trim line) lines
        obtain ⟨hinner, last, hlast, hrest⟩ := Block.isInner_of_bodyOf hbody
        have hne : (Block.header (trim line) lines).2 ≠ [] := by
          rw [hrest]
          simp
        have hall : BlockText.lines { opening := line, header := head, body := p.1, closing := last } ++ p.2 =
            line :: lines := by
          rw [hrest] at hlines
          rw [hlines]
          simp [BlockText.lines]
        exact ⟨{
          block := { opening := line, header := head, body := p.1, closing := last }
          after := p.2
          before_unled := fun _ hl => absurd hl List.not_mem_nil
          opening := hword
          header := by rw [hhead]
          header_closed := by
            rw [hhead]
            exact hclosed hne
          body := hinner
          closing := hlast }, hall⟩
    · rw [Block.collect_skip (by simpa using hword)] at h
      obtain ⟨f, hf⟩ := ih h
      refine ⟨{ f with
        before := line :: f.before
        before_unled := List.forall_mem_cons.2 ⟨hword, f.before_unled⟩ }, ?_⟩
      exact congrArg (line :: ·) hf

theorem collect_before (f : FirstBlock keyword) {k : Nat} (hk : k ≤ f.before.length) :
    Block.collect [keyword] (f.lines.take k) = .ok [] := by
  have htake : f.lines.take k = f.before.take k := by
    rw [FirstBlock.lines, List.take_append_of_le_length hk]
  rw [htake]
  refine Block.collect_unled fun word hword => ?_
  rw [List.mem_singleton.1 hword]
  exact fun l hl => f.before_unled l (List.mem_of_mem_take hl)

/-- The lines between the opening line and the closing line, cut off, do not close the block. -/
theorem bodyOf_cut (f : FirstBlock keyword) (n : Nat) :
    Block.bodyOf keyword 0 (Block.header (trim f.block.opening) ((f.block.header ++ f.block.body).take n)).2 = none := by
  rcases Nat.le_total n f.block.header.length with hn | hn
  · have hall := f.header
    rw [← List.take_append_drop n f.block.header] at hall
    have hheader : (Block.header (trim f.block.opening) (f.block.header.take n)).2 = [] := Block.header_beginning hall
    rw [List.take_append_of_le_length hn, hheader]
    rfl
  · have hheader : Block.header (trim f.block.opening) (f.block.header ++ f.block.body.take (n - f.block.header.length)) =
        _ := Block.header_append (.inr f.header_closed)
    rw [List.take_append, List.take_of_length_le hn, hheader, f.header, List.nil_append, Block.bodyOf_eq_none_iff]
    have hbody := f.body.within
    rw [← List.take_append_drop (n - f.block.header.length) f.block.body] at hbody
    exact hbody.mono

theorem collect_cut (f : FirstBlock keyword) {k : Nat} (hk : f.before.length < k) (hcut : k ≤ f.closingPlace) :
    ∃ name, Block.collect [keyword] (f.lines.take k) = .error (.missingEnd keyword name) := by
  obtain ⟨n, rfl⟩ := Nat.exists_eq_add_of_lt hk
  have htake : f.lines.take (f.before.length + n + 1) =
      f.before ++ f.block.opening :: (f.block.header ++ f.block.body).take n := by
    have hn : n ≤ (f.block.header ++ f.block.body).length := by
      rw [closingPlace] at hcut
      rw [List.length_append]
      omega
    have hlines : f.lines =
        f.before ++ f.block.opening :: ((f.block.header ++ f.block.body) ++ f.block.closing :: f.after) := by
      simp [FirstBlock.lines, BlockText.lines]
    rw [hlines, Nat.add_assoc, List.take_length_add_append, List.take_succ_cons, List.take_append_of_le_length hn]
  have hbefore : Block.collect [keyword] f.before = .ok [] := by
    have h := f.collect_before (Nat.le_refl f.before.length)
    rwa [FirstBlock.lines, List.take_left] at h
  have herror := Block.collect_missing f.opening (List.mem_singleton_self keyword) (f.bodyOf_cut n)
  exact ⟨_, by rw [htake, Block.collect_append hbefore, herror]; rfl⟩

end FirstBlock

end LadderAtlas.L5k
