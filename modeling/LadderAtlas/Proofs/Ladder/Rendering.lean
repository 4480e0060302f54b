import LadderAtlas.Ladder.Call

/-! # Written rungs

A rung is written as calls with separators around them, and each call as its mnemonic and its operands
between parentheses, with blanks where they may stand. `calls_render`: reading a written rung gives
its calls back. An operand may hold brackets and quoted texts as long as they are `Nested`; of such a
text the matching of parentheses (`closeCall_nested`) and the splitting at commas
(`splitCommas_nested`) pass over the same characters. -/

namespace LadderAtlas.Ladder
open Text

/-- Texts whose quotes are closed and whose parentheses and brackets, quoted ones aside, are closed in
order. Commas outside all of them are admitted if `inside`. -/
inductive Nested : (inside : Bool) → List Char → Prop
  | nil {inside : Bool} : Nested inside []
  | plain {inside : Bool} {c : Char} {s : List Char} (hc : c ∉ ['\'', '"', '(', ')', '[', ']'])
      (hcomma : c = ',' → inside = true) (hs : Nested inside s) : Nested inside (c :: s)
  | quoted {inside : Bool} {q : Char} {t s : List Char} (hq : q = '\'' ∨ q = '"') (ht : q ∉ t)
      (hs : Nested inside s) : Nested inside (q :: t ++ q :: s)
  | parens {inside : Bool} {t s : List Char} (ht : Nested true t) (hs : Nested inside s) :
      Nested inside ('(' :: t ++ ')' :: s)
  | brackets {inside : Bool} {t s : List Char} (ht : Nested true t) (hs : Nested inside s) :
      Nested inside ('[' :: t ++ ']' :: s)

def IsBlankText (s : List Char) : Prop := ∀ c ∈ s, isBlank c = true

/-- Texts that may stand around calls: without letters and underscores. -/
def IsSeparator (s : List Char) : Prop := ∀ c ∈ s, isIdentifierStart c = false

def IsIdentifier : List Char → Prop
  | [] => False
  | c :: s => isIdentifierStart c = true ∧ ∀ d ∈ s, isIdentifierPart d = true

instance (s : List Char) : Decidable (IsBlankText s) :=
  List.decidableBAll (fun c => isBlank c = true) s

instance (s : List Char) : Decidable (IsSeparator s) :=
  List.decidableBAll (fun c => isIdentifierStart c = false) s

instance : DecidablePred IsIdentifier
  | [] => inferInstanceAs (Decidable False)
  | c :: s =>
    have := List.decidableBAll (fun d => isIdentifierPart d = true) s
    inferInstanceAs (Decidable (isIdentifierStart c = true ∧ ∀ d ∈ s, isIdentifierPart d = true))

/-- An operand with the blanks written around it. -/
structure PlacedOperand where
  before : List Char := []
  text : List Char
  after : List Char := []

/-- A call as it is written, with the separator before it. -/
structure PlacedCall where
  lead : List Char := []
  mnemonic : List Char
  gap : List Char := []
  operands : List PlacedOperand
  /-- The blanks between the parentheses of a call without operands. -/
  hollow : List Char := []

namespace PlacedOperand

def render (o : PlacedOperand) : List Char := o.before ++ o.text ++ o.after

structure WellFormed (o : PlacedOperand) : Prop where
  before : IsBlankText o.before
  after : IsBlankText o.after
  trimmed : trim o.text = o.text
  nested : Nested false o.text

end PlacedOperand

namespace PlacedCall

/-- The call that is written. -/
def call (c : PlacedCall) : Call :=
  ⟨String.ofList c.mnemonic, c.operands.map fun o => String.ofList o.text⟩

/-- What stands between the parentheses. -/
def inner (c : PlacedCall) : List Char :=
  if c.operands.isEmpty then c.hollow else joined [','] (c.operands.map (·.render))

def render (c : PlacedCall) : List Char :=
  c.lead ++ c.mnemonic ++ c.gap ++ '(' :: c.inner ++ [')']

structure WellFormed (c : PlacedCall) : Prop where
  lead : IsSeparator c.lead
  mnemonic : IsIdentifier c.mnemonic
  gap : IsBlankText c.gap
  operands : ∀ o ∈ c.operands, o.WellFormed
  /-- A single empty operand cannot be told from none. -/
  notBlank : c.operands.map (·.text) ≠ [[]]
  hollow : IsBlankText c.hollow

end PlacedCall

/-- A rung with its calls; `last` is the separator after them. -/
def render (l : List PlacedCall) (last : List Char) : List Char := (l.map (·.render)).flatten ++ last

/-! ### Nested texts -/

namespace Nested
variable {inside : Bool} {s t : List Char}

theorem mono (h : Nested false s) : Nested true s := by
  generalize hb : false = b at h
  induction h with
  | nil => exact .nil
  | plain hc _ _ ih => exact .plain hc (fun _ => rfl) (ih hb)
  | quoted hq ht _ ih => exact .quoted hq ht (ih hb)
  | parens ht _ _ ih => exact .parens ht (ih hb)
  | brackets ht _ _ ih => exact .brackets ht (ih hb)

theorem append (hs : Nested inside s) (ht : Nested inside t) : Nested inside (s ++ t) := by
  induction hs with
  | nil => exact ht
  | plain hc hcomma _ ih => exact .plain hc hcomma (ih ht)
  | quoted hq hbody _ ih =>
    rw [List.append_assoc]
    exact .quoted hq hbody (ih ht)
  | parens hbody _ _ ih =>
    rw [List.append_assoc]
    exact .parens hbody (ih ht)
  | brackets hbody _ _ ih =>
    rw [List.append_assoc]
    exact .brackets hbody (ih ht)

theorem of_plain (h : s.all (· ∉ ['\'', '"', '(', ')', '[', ']', ',']) = true) : Nested inside s := by
  induction s with
  | nil => exact .nil
  | cons c s ih =>
    rw [List.all_cons, Bool.and_eq_true, decide_eq_true_iff] at h
    obtain ⟨hc, hs⟩ := h
    simp only [List.mem_cons, not_or] at hc
    exact .plain (by simp [hc]) (by simp [hc]) (ih hs)

theorem blank (h : IsBlankText s) : Nested inside s := by
  refine of_plain (List.all_eq_true.2 fun c hc => decide_eq_true fun hm => ?_)
  have hb : isBlank c = true := h c hc
  simp only [List.mem_cons, List.not_mem_nil, or_false] at hm
  rcases hm with rfl | rfl | rfl | rfl | rfl | rfl | rfl <;> exact absurd hb (by decide)

end Nested

/-! ### Matching parentheses -/

/-- Puts a text before what a call has inside. -/
def passed (s : List Char) (p : List Char × List Char) : List Char × List Char := (s ++ p.1, p.2)

theorem passed_passed (s t : List Char) (p : List Char × List Char) :
    passed s (passed t p) = passed (s ++ t) p := by
  simp [passed]

theorem closeCall_cons {c : Char} (hc : c ≠ ')') (depth : Nat) (s : List Char) :
    closeCall none depth (c :: s) =
      (closeCall (quoteAfter none c) (if c = '(' then depth + 1 else depth) s).map (passed [c]) := by
  simp only [closeCall, Option.isNone_none, Bool.true_and, decide_eq_true_eq, if_neg hc]
  rfl

theorem closeCall_close_succ (depth : Nat) (s : List Char) :
    closeCall none (depth + 1) (')' :: s) = (closeCall none depth s).map (passed [')']) := by
  simp only [closeCall, Option.isNone_none, Bool.true_and, decide_eq_true_eq, if_true]
  rfl

/-- A quote hides what is before its end. -/
theorem closeCall_quoted {q : Char} (t s : List Char) (ht : q ∉ t) (depth : Nat) :
    closeCall (some q) depth (t ++ q :: s) = (closeCall none depth s).map (passed (t ++ [q])) := by
  induction t with
  | nil =>
    simp only [List.nil_append, closeCall, Option.isNone_some, Bool.false_and, Bool.false_eq_true, if_false,
      quoteAfter, if_true]
    rfl
  | cons c t ih =>
    rw [List.mem_cons, not_or] at ht
    obtain ⟨hc, ht⟩ := ht
    simp only [List.cons_append, closeCall, Option.isNone_some, Bool.false_and, Bool.false_eq_true, if_false,
      quoteAfter, if_neg (Ne.symm hc), ih ht, Option.map_map]
    rfl

theorem quoteAfter_plain {c : Char} (hc : c ∉ ['\'', '"', '(', ')', '[', ']']) : quoteAfter none c = none := by
  simp only [List.mem_cons, not_or] at hc
  simp [quoteAfter, hc.1, hc.2.1]

/-- The parenthesis that closes a call is not inside a nested text. -/
theorem closeCall_nested {inside : Bool} {s : List Char} (h : Nested inside s) (depth : Nat) (rest : List Char) :
    closeCall none depth (s ++ rest) = (closeCall none depth rest).map (passed s) := by
  have hmap : ∀ (t u : List Char) (x : Option (List Char × List Char)),
      (x.map (passed u)).map (passed t) = x.map (passed (t ++ u)) := by
    intro t u x
    rw [Option.map_map]
    congr 1
    funext p
    exact passed_passed t u p
  induction h generalizing depth rest with
  | nil =>
    show _ = Option.map (fun p => p) _
    rw [Option.map_id']
    rfl
  | @plain _ c s hc _ _ ih =>
    have hp : c ≠ '(' ∧ c ≠ ')' := by
      simp only [List.mem_cons, not_or] at hc
      exact ⟨hc.2.2.1, hc.2.2.2.1⟩
    rw [List.cons_append, closeCall_cons hp.2, quoteAfter_plain hc, if_neg hp.1, ih, hmap]
    rfl
  | @quoted _ q t s hq ht _ ih =>
    have hne : q ≠ '(' ∧ q ≠ ')' ∧ quoteAfter none q = some q := by
      rcases hq with rfl | rfl <;> decide
    rw [List.append_assoc, List.cons_append, List.cons_append, closeCall_cons hne.2.1, hne.2.2, if_neg hne.1,
      closeCall_quoted t _ ht, ih, hmap, hmap]
    simp
  | @parens _ t s _ _ iht ihs =>
    -- inside the parentheses one more is open, which the one after them closes
    rw [List.append_assoc, List.cons_append, List.cons_append, closeCall_cons (by decide), if_pos rfl]
    show Option.map _ (closeCall none (depth + 1) (t ++ ')' :: (s ++ rest))) = _
    rw [iht, closeCall_close_succ, ihs, hmap, hmap, hmap]
    simp
  | @brackets _ t s _ _ iht ihs =>
    rw [List.append_assoc, List.cons_append, List.cons_append, closeCall_cons (by decide), if_neg (by decide)]
    show Option.map _ (closeCall none depth (t ++ ']' :: (s ++ rest))) = _
    rw [iht, closeCall_cons (by decide), if_neg (by decide)]
    show Option.map _ (Option.map _ (Option.map _ (closeCall none depth (s ++ rest)))) = _
    rw [ihs, hmap, hmap, hmap]
    simp

theorem callBody_nested {s : List Char} (h : Nested true s) (rest : List Char) :
    callBody (s ++ ')' :: rest) = (s, rest) := by
  unfold callBody
  rw [closeCall_nested h]
  simp [closeCall, passed]

/-! ### Splitting at commas -/

/-- Puts a text before the first piece. -/
def glue (s : List Char) (l : List (List Char)) : List (List Char) := (s ++ l.headD []) :: l.tail

theorem glue_glue (s t : List Char) (l : List (List Char)) : glue s (glue t l) = glue (s ++ t) l := by
  simp [glue]

theorem splitCommas_ne_nil (quote : Option Char) (depth : Int) (s : List Char) :
    splitCommas quote depth s ≠ [] := by
  cases s with
  | nil => simp [splitCommas]
  | cons c s =>
    simp only [splitCommas]
    split
    · simp
    · split <;> simp

theorem glue_nil {l : List (List Char)} (h : l ≠ []) : glue [] l = l := by
  cases l with
  | nil => exact absurd rfl h
  | cons p ps => rfl

/-- A character at which the text is not cut belongs to the first piece. -/
theorem splitCommas_keep {quote : Option Char} {depth : Int} {c : Char} {s : List Char}
    (h : (quote.isNone && c = ',' && depth = 0) = false) :
    splitCommas quote depth (c :: s) = glue [c] (splitCommas (quoteAfter quote c)
      (if quote.isSome then depth else if c = '(' || c = '[' then depth + 1
        else if c = ')' || c = ']' then depth - 1 else depth) s) := by
  simp only [splitCommas, h, Bool.false_eq_true, if_false]
  cases hl : splitCommas (quoteAfter quote c) (if quote.isSome then depth
    else if c = '(' || c = '[' then depth + 1 else if c = ')' || c = ']' then depth - 1 else depth) s with
  | nil => exact absurd hl (splitCommas_ne_nil _ _ _)
  | cons p ps => rfl

theorem splitCommas_cut (s : List Char) : splitCommas none 0 (',' :: s) = [] :: splitCommas none 0 s := by
  simp only [splitCommas, quoteAfter]
  cases hl : splitCommas none 0 s with
  | nil => exact absurd hl (splitCommas_ne_nil _ _ _)
  | cons p ps => simp [hl]

theorem splitCommas_quoted {q : Char} (t s : List Char) (ht : q ∉ t) (depth : Int) :
    splitCommas (some q) depth (t ++ q :: s) = glue (t ++ [q]) (splitCommas none depth s) := by
  induction t with
  | nil =>
    rw [List.nil_append, splitCommas_keep (by simp)]
    simp [quoteAfter]
  | cons c t ih =>
    rw [List.mem_cons, not_or] at ht
    obtain ⟨hc, ht⟩ := ht
    rw [List.cons_append, splitCommas_keep (by simp)]
    simp only [quoteAfter, if_neg (Ne.symm hc), Option.isSome_some, if_true]
    rw [ih ht, glue_glue]
    rfl

/-- A nested text is not cut: at depth 0 it has no bare comma, and deeper no comma counts. -/
theorem splitCommas_nested {inside : Bool} {s : List Char} (h : Nested inside s) {depth : Int}
    (hd : 0 ≤ depth) (hi : inside = true → 0 < depth) (rest : List Char) :
    splitCommas none depth (s ++ rest) = glue s (splitCommas none depth rest) := by
  induction h generalizing depth rest with
  | nil => rw [List.nil_append, glue_nil (splitCommas_ne_nil _ _ _)]
  | @plain inside c s hc hcomma _ ih =>
    have hkeep : (Option.isNone (none : Option Char) && c = ',' && depth = 0) = false := by
      by_cases h : c = ','
      · have := hi (hcomma h)
        simp [h]
        omega
      · simp [h]
    have hq := quoteAfter_plain hc
    simp only [List.mem_cons, not_or] at hc
    rw [List.cons_append, splitCommas_keep hkeep, hq]
    simp only [hc.2.2.1, hc.2.2.2.1, hc.2.2.2.2.1, hc.2.2.2.2.2.1, Option.isSome_none, Bool.false_eq_true,
      if_false, Bool.or_self, decide_false]
    rw [ih hd hi, glue_glue]
    rfl
  | @quoted _ q t s hq ht _ ih =>
    have hne : q ≠ ',' ∧ q ≠ '(' ∧ q ≠ '[' ∧ q ≠ ')' ∧ q ≠ ']' ∧ quoteAfter none q = some q := by
      rcases hq with rfl | rfl <;> decide
    rw [List.append_assoc, List.cons_append, List.cons_append, splitCommas_keep (by simp [hne.1]), hne.2.2.2.2.2]
    simp only [hne, Option.isSome_none, Bool.false_eq_true, if_false, Bool.or_self, decide_false]
    rw [splitCommas_quoted t _ ht, ih hd hi, glue_glue, glue_glue]
    simp
  | @parens _ t s _ _ iht ihs =>
    rw [List.append_assoc, List.cons_append, List.cons_append, splitCommas_keep (by simp)]
    show glue _ (splitCommas none (depth + 1) (t ++ ')' :: (s ++ rest))) = _
    rw [iht (by omega) (fun _ => by omega), splitCommas_keep (by simp)]
    show glue _ (glue _ (glue _ (splitCommas none (depth + 1 - 1) (s ++ rest)))) = _
    rw [Int.add_sub_cancel, ihs hd hi, glue_glue, glue_glue, glue_glue]
    simp
  | @brackets _ t s _ _ iht ihs =>
    rw [List.append_assoc, List.cons_append, List.cons_append, splitCommas_keep (by simp)]
    show glue _ (splitCommas none (depth + 1) (t ++ ']' :: (s ++ rest))) = _
    rw [iht (by omega) (fun _ => by omega), splitCommas_keep (by simp)]
    show glue _ (glue _ (glue _ (splitCommas none (depth + 1 - 1) (s ++ rest)))) = _
    rw [Int.add_sub_cancel, ihs hd hi, glue_glue, glue_glue, glue_glue]
    simp

/-- Joining texts without a bare comma by commas is undone by splitting. -/
theorem splitCommas_joined {l : List (List Char)} (hl : l ≠ []) (h : ∀ s ∈ l, Nested false s) :
    splitCommas none 0 (joined [','] l) = l := by
  induction l with
  | nil => exact absurd rfl hl
  | cons s l ih =>
    have hs := splitCommas_nested (h s (by simp)) (Int.le_refl 0) (fun h => by cases h)
    cases l with
    | nil =>
      have := hs []
      rw [List.append_nil] at this
      rw [joined, this]
      simp [splitCommas, glue]
    | cons t l =>
      rw [joined, List.append_assoc, List.singleton_append, hs, splitCommas_cut,
        ih (by simp) fun u hu => h u (List.mem_cons_of_mem _ hu)]
      · simp [glue]
      · simp

/-! ### Operands -/

theorem trimRight_append {a : List Char} (ha : IsBlankText a) (s : List Char) :
    trimRight (s ++ a) = trimRight s := by
  unfold trimRight
  rw [List.reverse_append, List.dropWhile_append_of_pos fun c hc => ha c (List.mem_reverse.1 hc)]

theorem trim_surrounded {b a : List Char} (hb : IsBlankText b) (ha : IsBlankText a) (s : List Char) :
    trim (b ++ s ++ a) = trim s := by
  unfold trim trimLeft
  rw [List.append_assoc, List.dropWhile_append_of_pos hb, List.dropWhile_append]
  split
  · rename_i hs
    have ha' : a.dropWhile isBlank = [] := by
      rw [← List.append_nil a, List.dropWhile_append_of_pos ha, List.dropWhile_nil]
    rw [ha', List.isEmpty_iff.1 hs]
  · exact trimRight_append ha _

theorem exists_trim (s : List Char) : ∃ b a, IsBlankText b ∧ IsBlankText a ∧ s = b ++ trim s ++ a := by
  refine ⟨s.takeWhile isBlank, ((trimLeft s).reverse.takeWhile isBlank).reverse, ?_, ?_, ?_⟩
  · exact fun c hc => List.all_eq_true.1 List.all_takeWhile c hc
  · exact fun c hc => List.all_eq_true.1 List.all_takeWhile c (List.mem_reverse.1 hc)
  · rw [List.append_assoc, trim, trimRight, ← List.reverse_append, List.takeWhile_append_dropWhile,
      List.reverse_reverse, trimLeft, List.takeWhile_append_dropWhile]

namespace PlacedOperand.WellFormed
variable {o : PlacedOperand}

theorem trim_render (h : o.WellFormed) : trim o.render = o.text :=
  (trim_surrounded h.before h.after o.text).trans h.trimmed

theorem nested_render (h : o.WellFormed) : Nested false o.render :=
  ((Nested.blank h.before).append h.nested).append (.blank h.after)

end PlacedOperand.WellFormed

theorem nested_joined {l : List (List Char)} (h : ∀ s ∈ l, Nested false s) : Nested true (joined [','] l) := by
  induction l with
  | nil => exact .nil
  | cons s l ih =>
    have hs := (h s (by simp)).mono
    cases l with
    | nil => exact hs
    | cons t l =>
      have hcomma : Nested true [','] := .plain (by decide) (fun _ => rfl) .nil
      exact (hs.append hcomma).append (ih fun u hu => h u (List.mem_cons_of_mem _ hu))

namespace PlacedCall.WellFormed
variable {c : PlacedCall}

theorem nested_inner (h : c.WellFormed) : Nested true c.inner := by
  unfold inner
  split
  · exact .blank h.hollow
  · refine nested_joined fun s hs => ?_
    obtain ⟨o, ho, rfl⟩ := List.mem_map.1 hs
    exact (h.operands o ho).nested_render

/-- The operands of a call are read back. -/
theorem operands_inner (h : c.WellFormed) : Ladder.operands c.inner = c.operands.map (·.text) := by
  have hne := h.notBlank
  unfold Ladder.operands inner
  by_cases hc : c.operands = []
  · have hn : Nested false c.hollow := .blank h.hollow
    have hs := splitCommas_nested hn (Int.le_refl 0) (fun h => by cases h) []
    have ht : trim c.hollow = [] := by
      have hb := trim_surrounded h.hollow (a := []) (by simp [IsBlankText]) []
      rw [List.append_nil, List.append_nil] at hb
      exact hb
    rw [List.append_nil] at hs
    simp [hc, hs, splitCommas, glue, ht]
  · have hmap : (c.operands.map (·.render)).map trim = c.operands.map (·.text) := by
      rw [List.map_map]
      exact List.map_congr_left fun o ho => (h.operands o ho).trim_render
    rw [if_neg (by simpa using hc), splitCommas_joined (by simpa using hc), hmap]
    · split
      · rename_i heq
        exact absurd heq hne
      · rfl
    · intro s hs
      obtain ⟨o, ho, rfl⟩ := List.mem_map.1 hs
      exact (h.operands o ho).nested_render

end PlacedCall.WellFormed

/-! ### Calls -/

theorem toNat_of_isAlpha {c : Char} (h : c.isAlpha = true) : 65 ≤ c.toNat ∧ c.toNat ≤ 122 := by
  have hcase : (c.isUpper || c.isLower) = true := h
  rw [Bool.or_eq_true] at hcase
  rcases hcase with hc | hc
  · have hu : c.val ≥ 65 ∧ c.val ≤ 90 := of_decide_eq_true hc
    exact ⟨UInt32.le_iff_toNat_le.1 hu.1, Nat.le_trans (UInt32.le_iff_toNat_le.1 hu.2) (by decide)⟩
  · have hl : (decide (c.val ≥ 97) && decide (c.val ≤ 122)) = true := hc
    rw [Bool.and_eq_true, decide_eq_true_iff, decide_eq_true_iff] at hl
    exact ⟨Nat.le_trans (by decide) (UInt32.le_iff_toNat_le.1 hl.1), UInt32.le_iff_toNat_le.1 hl.2⟩

theorem toNat_of_isDigit {c : Char} (h : c.isDigit = true) : 48 ≤ c.toNat ∧ c.toNat ≤ 57 := by
  have hd : (decide (c.val ≥ 48) && decide (c.val ≤ 57)) = true := h
  rw [Bool.and_eq_true, decide_eq_true_iff, decide_eq_true_iff] at hd
  exact ⟨UInt32.le_iff_toNat_le.1 hd.1, UInt32.le_iff_toNat_le.1 hd.2⟩

theorem toNat_of_isIdentifierStart {c : Char} (h : isIdentifierStart c = true) : 65 ≤ c.toNat ∧ c.toNat ≤ 122 := by
  rw [isIdentifierStart, Bool.or_eq_true, decide_eq_true_iff] at h
  rcases h with h | rfl
  · exact toNat_of_isAlpha h
  · decide

theorem toNat_of_isIdentifierPart {c : Char} (h : isIdentifierPart c = true) : 48 ≤ c.toNat ∧ c.toNat ≤ 122 := by
  have hcase : (c.isAlpha || c.isDigit) = true ∨ c = '_' := by
    rw [isIdentifierPart, Bool.or_eq_true, decide_eq_true_iff] at h
    exact h
  rw [Bool.or_eq_true] at hcase
  rcases hcase with (h | h) | rfl
  · have hn := toNat_of_isAlpha h
    omega
  · have hn := toNat_of_isDigit h
    omega
  · decide

theorem isIdentifierPart_of_isIdentifierStart {c : Char} (h : isIdentifierStart c = true) :
    isIdentifierPart c = true := by
  rw [isIdentifierStart, Bool.or_eq_true] at h
  rw [isIdentifierPart, Char.isAlphanum, Bool.or_eq_true, Bool.or_eq_true]
  exact h.imp_left .inl

theorem mem_identifier {name : List Char} (h : IsIdentifier name) {c : Char} (hc : c ∈ name) :
    isIdentifierPart c = true := by
  cases name with
  | nil => cases hc
  | cons d name =>
    rcases List.mem_cons.1 hc with rfl | hc
    · exact isIdentifierPart_of_isIdentifierStart h.1
    · exact h.2 c hc

theorem isIdentifierPart_of_isBlank {c : Char} (h : isBlank c = true) : isIdentifierPart c = false := by
  rw [Bool.eq_false_iff]
  intro hp
  have hn := toNat_of_isIdentifierPart hp
  simp only [isBlank, blankRanges, Ranges.has] at h
  simp at h
  omega

theorem calls_separator {sep : List Char} (h : IsSeparator sep) (s : List Char) :
    calls (sep ++ s) = calls s := by
  induction sep with
  | nil => rfl
  | cons c sep ih =>
    rw [List.cons_append, calls, if_neg (by simp [h c])]
    exact ih fun d hd => h d (List.mem_cons_of_mem _ hd)

theorem calls_of_paren {c : Char} {s t : List Char} (hc : isIdentifierStart c = true)
    (ht : afterParen? (s.dropWhile isIdentifierPart) = some t) :
    calls (c :: s) =
      ⟨String.ofList (c :: s.takeWhile isIdentifierPart), (operands (callBody t).1).map String.ofList⟩ ::
        calls (callBody t).2 := by
  rw [calls, if_pos hc]
  split
  · rename_i u hu
    rw [ht] at hu
    obtain rfl := Option.some.inj hu
    rfl
  · rename_i hu
    rw [ht] at hu
    cases hu

theorem afterParen?_gap {gap : List Char} (h : IsBlankText gap) (t : List Char) :
    afterParen? (gap ++ '(' :: t) = some t := by
  unfold afterParen? trimLeft
  rw [List.dropWhile_append_of_pos h, List.dropWhile_cons_of_neg (by decide)]
  rfl

/-- The mnemonic ends where blanks or the parenthesis begin. -/
theorem span_mnemonic {m gap : List Char} (hm : ∀ d ∈ m, isIdentifierPart d = true) (hg : IsBlankText gap)
    (t : List Char) : (m ++ (gap ++ '(' :: t)).takeWhile isIdentifierPart = m ∧
      (m ++ (gap ++ '(' :: t)).dropWhile isIdentifierPart = gap ++ '(' :: t := by
  rw [List.takeWhile_append_of_pos hm, List.dropWhile_append_of_pos hm]
  cases gap with
  | nil =>
    have hp : ¬ isIdentifierPart '(' = true := by decide
    rw [List.nil_append, List.takeWhile_cons_of_neg hp, List.dropWhile_cons_of_neg hp]
    simp
  | cons g gap =>
    have hp : ¬ isIdentifierPart g = true := by
      rw [isIdentifierPart_of_isBlank (hg g (by simp))]
      simp
    rw [List.cons_append, List.takeWhile_cons_of_neg hp, List.dropWhile_cons_of_neg hp]
    simp

/-- A written call is read, whatever follows it. -/
theorem PlacedCall.WellFormed.calls_append {c : PlacedCall} (h : c.WellFormed) (rest : List Char) :
    calls (c.render ++ rest) = c.call :: calls rest := by
  obtain ⟨x, m, hm⟩ : ∃ x m, c.mnemonic = x :: m := by
    cases hc : c.mnemonic with
    | nil =>
      have := h.mnemonic
      rw [hc] at this
      exact absurd this id
    | cons x m => exact ⟨x, m, rfl⟩
  obtain ⟨hx, hparts⟩ : isIdentifierStart x = true ∧ ∀ d ∈ m, isIdentifierPart d = true := by
    have := h.mnemonic
    rw [hm] at this
    exact this
  obtain ⟨htake, hdrop⟩ := span_mnemonic hparts h.gap (c.inner ++ ')' :: rest)
  have hparen := afterParen?_gap h.gap (c.inner ++ ')' :: rest)
  rw [← hdrop] at hparen
  have hrender : c.render ++ rest = c.lead ++ x :: (m ++ (c.gap ++ '(' :: (c.inner ++ ')' :: rest))) := by
    simp [PlacedCall.render, hm]
  rw [hrender, calls_separator h.lead, calls_of_paren hx hparen, htake, callBody_nested h.nested_inner,
    h.operands_inner]
  simp [PlacedCall.call, hm]

theorem calls_flatten_append {l : List PlacedCall} (hl : ∀ c ∈ l, c.WellFormed) (rest : List Char) :
    calls ((l.map (·.render)).flatten ++ rest) = l.map (·.call) ++ calls rest := by
  induction l with
  | nil => rfl
  | cons c l ih =>
    rw [List.map_cons, List.flatten_cons, List.append_assoc, (hl c (by simp)).calls_append,
      ih fun d hd => hl d (List.mem_cons_of_mem _ hd)]
    rfl

theorem calls_of_separator {sep : List Char} (h : IsSeparator sep) : calls sep = [] := by
  have hs := calls_separator h []
  rw [List.append_nil] at hs
  rw [hs, calls]

/-- Reading a written rung gives its calls back, in order. -/
theorem calls_render (l : List PlacedCall) (last : List Char) (hl : ∀ c ∈ l, c.WellFormed)
    (hlast : IsSeparator last) : calls (render l last) = l.map (·.call) := by
  rw [render, calls_flatten_append hl, calls_of_separator hlast, List.append_nil]

/-- A branch whose operands hold commas, parentheses and a bracket, some of them quoted. -/
def branchCalls : List PlacedCall := [
  { lead := "3)[ ".toList, mnemonic := "XIC".toList, gap := [' '],
    operands := [⟨[' '], "A[(I),2]".toList, []⟩, ⟨[], "')],'".toList, [' ']⟩, ⟨[], [], []⟩] },
  { lead := " ,".toList, mnemonic := "_n1".toList, operands := [], hollow := [' '] }]

theorem branchCalls_wellFormed : ∀ c ∈ branchCalls, c.WellFormed := by
  have hindex : Nested false "A[(I),2]".toList := by
    refine .plain (by decide) (by decide) ?_
    refine .brackets (t := "(I),2".toList) (s := []) ?_ .nil
    refine .parens (t := "I".toList) (s := ",2".toList) ?_ ?_
    · exact .of_plain (by decide)
    · exact .plain (by decide) (by decide) (.of_plain (by decide))
  have hquoted : Nested false "')],'".toList :=
    .quoted (q := '\'') (t := ")],".toList) (s := []) (.inl rfl) (by decide) .nil
  intro c hc
  simp only [branchCalls, List.mem_cons, List.not_mem_nil, or_false] at hc
  rcases hc with rfl | rfl
  · refine ⟨by decide, by decide, by decide, ?_, by decide, by decide⟩
    intro o ho
    simp only [List.mem_cons, List.not_mem_nil, or_false] at ho
    rcases ho with rfl | rfl | rfl
    · exact ⟨by decide, by decide, by decide, hindex⟩
    · exact ⟨by decide, by decide, by decide, hquoted⟩
    · exact ⟨by decide, by decide, by decide, .nil⟩
  · exact ⟨by decide, by decide, by decide, by simp, by decide, by decide⟩

theorem calls_render_branch : (∀ c ∈ branchCalls, c.WellFormed) ∧ IsSeparator "] 5".toList ∧
    calls "3)[ XIC ( A[(I),2],')],' ,) ,_n1( )] 5".toList =
      [⟨"XIC", ["A[(I),2]", "')],'", ""]⟩, ⟨"_n1", []⟩] := by
  have hlast : IsSeparator "] 5".toList := by decide
  exact ⟨branchCalls_wellFormed, hlast, calls_render branchCalls _ branchCalls_wellFormed hlast⟩

end LadderAtlas.Ladder
