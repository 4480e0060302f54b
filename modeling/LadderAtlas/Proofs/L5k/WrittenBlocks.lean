import LadderAtlas.Proofs.L5k.FirstBlock
import LadderAtlas.Proofs.L5k.WrittenAttributes

/-!
# Written blocks

The lines of a file are blocks and lines between them. The header of a block is a keyword, a name and perhaps
attributes in parentheses. Its parenthesis opens on the opening line, and where it is broken into further lines it is
read as long as the parenthesis is open (`WrittenHeader.WellFormed.header_lines`), whatever its quoted values hold.
The body ends where the blocks of the keyword inside it are closed (`Block.bodyOf_eq_some_iff`). So the blocks are
collected as they were written, and a last block without its closing line is missed: `Block.collect_written`.
-/

namespace LadderAtlas.L5k
open Text
open Ladder (IsBlankText IsIdentifier)

/-! ### Words -/

theorem words_blank {a : List Char} (ha : IsBlankText a) : words a = [] := by
  have hsplit : ∀ s ∈ splitOn isBlank a, s = [] := by
    induction a with
    | nil => simp [splitOn]
    | cons c a ih =>
      have hc : isBlank c = true := ha c (by simp)
      rw [splitOn, if_pos hc]
      exact List.forall_mem_cons.2 ⟨rfl, ih fun d hd => ha d (List.mem_cons_of_mem _ hd)⟩
  exact List.filter_eq_nil_iff.2 fun s hs => by simp [hsplit s hs]

theorem words_run {s a : List Char} (hs : IsRun s) (ha : IsBlankText a) : words (s ++ a) = [s] := by
  cases a with
  | nil => simp [words, splitOn_eq_self hs.solid, hs.ne_nil]
  | cons c a =>
    have hblank : words a = [] := words_blank fun d hd => ha d (List.mem_cons_of_mem _ hd)
    rw [words] at hblank
    rw [words, splitOn_append_cons hs.solid (ha c (by simp)), List.filter_cons, hblank, if_pos (by simp [hs.ne_nil])]

theorem leadingWord_append {word s : List Char} (hword : IsIdentifier word)
    (hs : ∀ c t, s = c :: t → isBlank c = true ∨ c = '(') : leadingWord (word ++ s) = some (String.ofList word) := by
  cases word with
  | nil => exact hword.elim
  | cons c w =>
    have hspan : (c :: w ++ s).span isWordPart = (c :: w, s) := by
      refine span_append (fun d hd => Ladder.mem_identifier hword hd) fun x t he => ?_
      rcases hs x t he with hx | rfl
      · exact Ladder.isIdentifierPart_of_isBlank hx
      · decide
    have hnext : (s.head?.all fun d => isBlank d || d = '(' || d = ';') = true := by
      cases s with
      | nil => rfl
      | cons x t =>
        rcases hs x t rfl with hx | rfl
        · simp [hx]
        · rfl
    have hstart : isWordStart c = true := hword.1
    rw [List.cons_append, leadingWord]
    simp only [hstart, Bool.not_true, Bool.false_eq_true, if_false]
    rw [← List.cons_append, hspan]
    simp only [hnext, if_true]

/-! ### Headers -/

/-- A header: a keyword, a name and perhaps attributes in parentheses, with the blanks before them. -/
structure WrittenHeader where
  keyword : List Char
  gap : List Char := []
  name : List Char := []
  group : Option (List Char × List WrittenAttribute) := none

namespace WrittenHeader
variable (h : WrittenHeader)

def groupText : List Char :=
  match h.group with
  | none => []
  | some (gap, l) => gap ++ '(' :: (listText l ++ [')'])

def text : List Char := h.keyword ++ (h.gap ++ (h.name ++ h.groupText))

/-- The header up to some blanks after its name. -/
def upTo (gap : List Char) : List Char := h.keyword ++ (h.gap ++ (h.name ++ gap))

/-- What stands on the first line at least: the parenthesis, if there is any, belongs to it. -/
def beginning : List Char :=
  match h.group with
  | none => h.upTo []
  | some (gap, _) => h.upTo gap ++ ['(']

/-- The attributes of the header. -/
def attributes : Attributes := attributesOf ((h.group.map (·.2)).getD [])

/-- The name is a run of characters that opens and closes nothing. It may be empty. -/
structure WellFormed : Prop where
  keyword : IsIdentifier h.keyword
  gap : IsBlankText h.gap
  apart : h.name ≠ [] → h.gap ≠ []
  name : h.name = [] ∨ IsRun h.name
  plain : Avoids ['"', '(', ')'] h.name
  last : h.group = none → h.name.getLast? ≠ some ';'
  group_gap : ∀ g ∈ h.group, IsBlankText g.1
  group : ∀ g ∈ h.group, ∀ a ∈ g.2, a.WellFormed

variable {h}

theorem text_of_none (hg : h.group = none) : h.text = h.upTo [] := by
  rw [text, upTo, groupText, hg]

theorem text_of_some {gap : List Char} {l : List WrittenAttribute} (hg : h.group = some (gap, l)) :
    h.text = h.upTo gap ++ '(' :: (listText l ++ [')']) := by
  simp [text, upTo, groupText, hg]

namespace WellFormed

theorem upTo_plain (hh : h.WellFormed) {gap : List Char} (hgap : IsBlankText gap) :
    Avoids ['"', '(', ')'] (h.upTo gap) := by
  have hkeyword : Avoids ['"', '(', ')'] h.keyword := by
    intro c hc hm
    have hpart := Ladder.mem_identifier hh.keyword hc
    simp only [List.mem_cons, List.not_mem_nil, or_false] at hm
    rcases hm with rfl | rfl | rfl <;> exact absurd hpart (by decide)
  exact hkeyword.append ((Avoids.of_blank (by decide) hh.gap).append (hh.plain.append (.of_blank (by decide) hgap)))

theorem isRun_name (hh : h.WellFormed) (hname : h.name ≠ []) : IsRun h.name := hh.name.resolve_left hname

/-- After a whole header no parenthesis is open. -/
theorem parenDepth_text (hh : h.WellFormed) : parenDepth h.text = 0 := by
  cases hg : h.group with
  | none =>
    have hplain := depthFrom_plain (hh.upTo_plain fun c hc => absurd hc List.not_mem_nil) 0 []
    rw [List.append_nil] at hplain
    rw [text_of_none hg, parenDepth_eq, hplain]
    rfl
  | some g =>
    obtain ⟨gap, l⟩ := g
    have hl : Nested true (listText l) := nested_listText (hh.group _ hg)
    rw [text_of_some hg, parenDepth_eq, depthFrom_plain (hh.upTo_plain (hh.group_gap _ hg)), shade_cons (by decide),
      (counts_depthFrom.parens _ _).1, depthFrom_nested hl, shade_cons (by decide), (counts_depthFrom.parens _ _).2]
    rfl

/-- Where a header is broken after its beginning, its parenthesis is still open. -/
theorem parenDepth_broken (hh : h.WellFormed) {p q : List Char} {c : Char} (htext : p ++ c :: q = h.text)
    (hp : h.beginning <+: p) : 0 < parenDepth p := by
  obtain ⟨r, rfl⟩ := hp
  cases hg : h.group with
  | none =>
    -- there the whole header is its beginning
    have hlength := congrArg List.length htext
    simp [beginning, hg, text_of_none hg] at hlength
  | some g =>
    obtain ⟨gap, l⟩ := g
    have hl : Nested true (listText l) := nested_listText (hh.group _ hg)
    have hbeginning : h.beginning = h.upTo gap ++ ['('] := by simp [beginning, hg]
    have hrest : r ++ c :: q = listText l ++ [')'] := by
      rw [text_of_some hg, hbeginning] at htext
      simpa using htext
    have hr : r <+: listText l := by
      have hlength := congrArg List.length hrest
      simp only [List.length_append, List.length_cons, List.length_nil] at hlength
      exact List.prefix_of_prefix_length_le (hrest ▸ List.prefix_append r (c :: q)) (List.prefix_append _ _) (by omega)
    have hdepth := le_depthFrom_prefix hl hr (0 + 1)
    rw [hbeginning, List.append_assoc, parenDepth_eq, depthFrom_plain (hh.upTo_plain (hh.group_gap _ hg)),
      List.singleton_append, shade_cons (by decide), (counts_depthFrom.parens _ _).1]
    omega

/-- The lines of a header are read up to its end. -/
theorem header_lines (hh : h.WellFormed) {s : List Char} {further : List (List Char)} (hs : h.beginning <+: s)
    (hlines : joined ['\n'] (s :: further.map trim) = h.text) (more : List (List Char)) :
    Block.header s (further ++ more) = (h.text, more) := by
  induction further generalizing s with
  | nil =>
    have htext : s = h.text := hlines
    have hdepth : ¬ 0 < parenDepth s := by
      rw [htext, hh.parenDepth_text]
      exact Int.lt_irrefl 0
    rw [← htext]
    cases more with
    | nil => rfl
    | cons line more => exact if_neg hdepth
  | cons line further ih =>
    have hbroken : s ++ '\n' :: joined ['\n'] (trim line :: further.map trim) = h.text := by
      rw [← hlines, List.map_cons, joined_cons (List.cons_ne_nil _ _), List.append_assoc]
      rfl
    have hdepth := hh.parenDepth_broken hbroken hs
    have hgo : Block.header s (line :: further ++ more) = Block.header (s ++ '\n' :: trim line) (further ++ more) :=
      if_pos hdepth
    rw [hgo]
    refine ih (hs.trans (List.prefix_append _ _)) ?_
    rw [← hlines, List.map_cons, joined_cons_cons]
    simp

/-- After its keyword a header goes on with a blank or its parenthesis. -/
theorem head_rest (hh : h.WellFormed) {c : Char} {t : List Char} (hc : h.gap ++ (h.name ++ h.groupText) = c :: t) :
    isBlank c = true ∨ c = '(' := by
  cases hgap : h.gap with
  | cons d gap =>
    rw [hgap] at hc
    obtain ⟨rfl, -⟩ := List.cons.inj hc
    exact .inl (hh.gap d (by simp [hgap]))
  | nil =>
    have hname : h.name = [] := Decidable.byContradiction fun hne => hh.apart hne hgap
    rw [hgap, hname, List.nil_append, List.nil_append, groupText.eq_def] at hc
    split at hc
    · cases hc
    · rename_i blanks l hg
      cases blanks with
      | nil => exact .inr (List.cons.inj hc).1.symm
      | cons d blanks =>
        obtain ⟨rfl, -⟩ := List.cons.inj hc
        exact .inl (hh.group_gap _ hg d (by simp))

theorem leadingWord_opening (hh : h.WellFormed) {line : List Char} (hp : h.beginning <+: line)
    (hline : line <+: h.text) : leadingWord line = some (String.ofList h.keyword) := by
  have hkeyword : h.keyword <+: h.beginning := by
    rw [beginning.eq_def]
    split
    · exact List.prefix_append _ _
    · rw [upTo, List.append_assoc]
      exact List.prefix_append _ _
  obtain ⟨s, rfl⟩ := hkeyword.trans hp
  refine leadingWord_append hh.keyword fun c t he => ?_
  obtain ⟨u, hu⟩ := (List.prefix_append_right_inj h.keyword).1 hline
  rw [he, List.cons_append] at hu
  exact hh.head_rest hu.symm

theorem trimLeft_name (hh : h.WellFormed) {gap : List Char} (hgap : IsBlankText gap) :
    trimLeft (h.gap ++ (h.name ++ gap)) = if h.name = [] then [] else h.name ++ gap := by
  rw [trimLeft_blank_append hh.gap]
  split
  · rename_i hname
    have htrim := trimLeft_blank_append hgap []
    rw [List.append_nil] at htrim
    rw [hname, List.nil_append, htrim]
    rfl
  · rename_i hname
    obtain ⟨c, s, hcons⟩ := List.exists_cons_of_ne_nil hname
    rw [hcons, List.cons_append, trimLeft_cons ((hh.isRun_name hname).solid c (by simp [hcons]))]

theorem word_name (hh : h.WellFormed) {gap : List Char} (hgap : IsBlankText gap) :
    (words (if h.name = [] then [] else h.name ++ gap)).headD [] = h.name := by
  split
  · rename_i hname
    rw [hname]
    rfl
  · rename_i hname
    rw [words_run (hh.isRun_name hname) hgap]
    rfl

/-- Behind its keyword a header is its name and its attributes. -/
theorem readHeader_text (hh : h.WellFormed) :
    Block.readHeader (h.text.drop h.keyword.length) = (String.ofList h.name, h.attributes) := by
  rw [text, List.drop_left, Block.readHeader, attributes]
  cases hg : h.group with
  | none =>
    have hempty : IsBlankText [] := by decide
    have hgroup : h.groupText = [] := by rw [groupText, hg]
    have htrim : trimLeft (h.gap ++ (h.name ++ [])) = h.name := by
      rw [hh.trimLeft_name hempty, List.append_nil, ite_eq_right_iff]
      exact Eq.symm
    have hword := hh.word_name hempty
    rw [← hh.trimLeft_name hempty, htrim] at hword
    have hparen : '(' ∉ h.name := fun hm => hh.plain _ hm (by decide)
    have hlast : (h.name.reverse.dropWhile (· = ';')).reverse = h.name := by
      have hne := hh.last hg
      rw [← List.head?_reverse] at hne
      rw [← List.reverse_inj, List.reverse_reverse]
      cases hr : h.name.reverse with
      | nil => rfl
      | cons c s =>
        rw [hr] at hne
        exact List.dropWhile_cons_of_neg (by simpa using hne)
    rw [hgroup, htrim]
    simp only [firstGroup_eq_none hparen, hlast, hword]
    rfl
  | some g =>
    obtain ⟨gap, l⟩ := g
    have hgap : IsBlankText gap := hh.group_gap _ hg
    have hl := hh.group _ hg
    have hgroup : h.groupText = gap ++ '(' :: (listText l ++ [')']) := by rw [groupText, hg]
    have htrim : trimLeft (h.gap ++ (h.name ++ h.groupText)) =
        (if h.name = [] then [] else h.name ++ gap) ++ '(' :: (listText l ++ [')']) := by
      rw [← hh.trimLeft_name hgap, ← trimLeft_append_cons (by decide), hgroup]
      simp
    have hplain : Avoids ['"', '('] (if h.name = [] then [] else h.name ++ gap) := by
      split
      · decide
      · exact (hh.plain.mono (by simp)).append (.of_blank (by decide) hgap)
    have hfirst := firstGroup_nested hplain (nested_listText hl) []
    rw [htrim]
    simp only [hfirst, hh.word_name hgap, Attributes.parse_listText hl]
    rfl

end WellFormed

end WrittenHeader

/-! ### Blocks -/

/-- A block with its header as it is written. -/
structure WrittenBlock extends BlockText where
  written : WrittenHeader

namespace WrittenBlock

def keyword (b : WrittenBlock) : String := String.ofList b.written.keyword

/-- The lines of the block without the closing one. -/
def unclosed (b : WrittenBlock) : List (List Char) := b.opening :: (b.header ++ b.body)

/-- The block that is written. -/
def result (b : WrittenBlock) : Block := ⟨b.keyword, String.ofList b.written.name, b.written.attributes, b.body⟩

structure WellFormed (keywords : List String) (b : WrittenBlock) : Prop where
  written : b.written.WellFormed
  known : b.keyword ∈ keywords
  lines : joined ['\n'] (trim b.opening :: b.header.map trim) = b.written.text
  opening : b.written.beginning <+: trim b.opening
  body : IsInner b.keyword 0 b.body
  closing : leadingWord (trim b.closing) = some ("END_" ++ b.keyword)

namespace WellFormed
variable {keywords : List String} {b : WrittenBlock}

theorem leadingWord_opening (h : b.WellFormed keywords) : leadingWord (trim b.opening) = some b.keyword := by
  refine h.written.leadingWord_opening h.opening ?_
  rw [← h.lines]
  exact prefix_joined ['\n'] [trim b.opening] (b.header.map trim)

theorem header_append (h : b.WellFormed keywords) (more : List (List Char)) :
    Block.header (trim b.opening) (b.header ++ more) = (b.written.text, more) :=
  h.written.header_lines h.opening h.lines more

theorem begun_text (h : b.WellFormed keywords) (body : List (List Char)) : Block.begun b.keyword b.written.text body =
    ⟨b.keyword, String.ofList b.written.name, b.written.attributes, body⟩ := by
  have hlength : b.keyword.length = b.written.keyword.length := by
    rw [keyword, String.length_ofList]
  rw [Block.begun, hlength, h.written.readHeader_text]

/-- A written block is collected, whatever follows. -/
theorem collect_lines (h : b.WellFormed keywords) (more : List (List Char)) :
    Block.collect keywords (b.lines ++ more) = (Block.collect keywords more).map (b.result :: ·) := by
  have hlines : b.lines ++ more = b.opening :: (b.header ++ (b.body ++ b.closing :: more)) := by simp [BlockText.lines]
  have hbody : Block.bodyOf b.keyword 0 (b.body ++ b.closing :: more) = some (b.body, more) :=
    Block.bodyOf_eq_some_iff.2 ⟨h.body, b.closing, h.closing, rfl⟩
  rw [hlines, Block.collect_begun h.leadingWord_opening h.known, h.header_append, h.begun_text, result]
  rw [h.header_append]
  exact hbody

/-- A written block that is not closed is missed. -/
theorem collect_unclosed (h : b.WellFormed keywords) {later : List (List Char)}
    (hlater : Unled ("END_" ++ b.keyword) later) :
    Block.collect keywords (b.unclosed ++ later) = .error (.missingEnd b.keyword (String.ofList b.written.name)) := by
  have hlines : b.unclosed ++ later = b.opening :: (b.header ++ (b.body ++ later)) := by simp [unclosed]
  have hbody : Block.bodyOf b.keyword 0 (b.body ++ later) = none :=
    (Block.bodyOf_eq_none_iff _ _ _).2 (h.body.within_append hlater)
  rw [hlines, Block.collect_missing h.leadingWord_opening h.known, h.header_append, h.begun_text]
  rw [h.header_append]
  exact hbody

end WellFormed

end WrittenBlock

/-! ### Files of blocks -/

/-- A part of a file: a line that belongs to no block, or a block. -/
inductive FilePart where
  | filler (line : List Char)
  | block (b : WrittenBlock)

namespace FilePart

def lines : FilePart → List (List Char)
  | .filler line => [line]
  | .block b => b.lines

def block? : FilePart → Option Block
  | .filler _ => none
  | .block b => some b.result

def WellFormed (keywords : List String) : FilePart → Prop
  | .filler line => ∀ k ∈ keywords, leadingWord (trim line) ≠ some k
  | .block b => b.WellFormed keywords

end FilePart

namespace Block
variable {keywords : List String} {parts : List FilePart}

theorem collect_parts (hparts : ∀ p ∈ parts, p.WellFormed keywords) :
    collect keywords (parts.flatMap (·.lines)) = .ok (parts.filterMap (·.block?)) := by
  induction parts with
  | nil =>
    rw [List.flatMap_nil, collect]
    rfl
  | cons p parts ih =>
    have hp := hparts p (by simp)
    have ih := ih fun q hq => hparts q (List.mem_cons_of_mem _ hq)
    rw [List.flatMap_cons]
    cases p with
    | filler line =>
      have hskip : collect keywords ([line] ++ parts.flatMap (·.lines)) = _ := collect_skip hp
      exact hskip.trans ih
    | block b =>
      have hblock : collect keywords (b.lines ++ parts.flatMap (·.lines)) = _ :=
        WrittenBlock.WellFormed.collect_lines hp _
      rw [ih] at hblock
      exact hblock

/-- Written blocks are collected in their order, each with its keyword, name, attributes and body. Where the last one
lacks its closing line, that is an error. -/
theorem collect_written (keywords : List String) (parts : List FilePart)
    (hparts : ∀ p ∈ parts, p.WellFormed keywords) :
    collect keywords (parts.flatMap (·.lines)) = .ok (parts.filterMap (·.block?)) ∧
    ∀ (b : WrittenBlock) (later : List (List Char)), b.WellFormed keywords → Unled ("END_" ++ b.keyword) later →
      collect keywords (parts.flatMap (·.lines) ++ (b.unclosed ++ later)) =
        .error (.missingEnd b.keyword (String.ofList b.written.name)) ∧
      (ParseCause.missingEnd b.keyword (String.ofList b.written.name)).sort =
        if b.keyword = "CONTROLLER" then .truncated else .malformed := by
  refine ⟨collect_parts hparts, fun b later hb hlater => ⟨?_, rfl⟩⟩
  rw [collect_append (collect_parts hparts), hb.collect_unclosed hlater]
  rfl

def mainAttributes : List WrittenAttribute := [
  { key := "Note".toList, value := .quoted "a ) (".toList "a ) (".toList },
  { before := ['\n'], key := "Type".toList, value := .bare "NORMAL".toList }]

/-- A header of two lines, and a block of the same keyword in the body. -/
def mainBlock : WrittenBlock where
  opening := "PROGRAM Main (Note := \"a ) (\",".toList
  header := ["    Type := NORMAL)".toList]
  body := ["PROGRAM Inner".toList, "  END_PROGRAM".toList, "TAG".toList]
  closing := "END_PROGRAM (* Main *)".toList
  written := { keyword := "PROGRAM".toList, gap := [' '], name := "Main".toList, group := some ([' '], mainAttributes) }

def openBlock : WrittenBlock where
  opening := "CONTROLLER C".toList
  body := ["TAG".toList, "END_TAG".toList]
  closing := "END_CONTROLLER".toList
  written := { keyword := "CONTROLLER".toList, gap := [' '], name := ['C'] }

def mainParts : List FilePart := [.filler "IE_VER := 2.1;".toList, .block mainBlock, .filler "TAG".toList]

theorem collect_written_main :
    (∀ p ∈ mainParts, p.WellFormed ["PROGRAM", "CONTROLLER"]) ∧ openBlock.WellFormed ["PROGRAM", "CONTROLLER"] ∧
    Unled ("END_" ++ openBlock.keyword) ["END_TAG".toList] ∧
    collect ["PROGRAM", "CONTROLLER"] (mainParts.flatMap (·.lines)) = .ok [mainBlock.result] ∧
    (mainBlock.result.keyword, mainBlock.result.name, mainBlock.result.attributes, mainBlock.result.body) =
      ("PROGRAM", "Main", [("Note", "a ) ("), ("Type", "NORMAL")], mainBlock.body) ∧
    collect ["PROGRAM", "CONTROLLER"] (mainParts.flatMap (·.lines) ++ (openBlock.unclosed ++ ["END_TAG".toList])) =
      .error (.missingEnd "CONTROLLER" "C") := by
  have hattributes : ∀ a ∈ mainAttributes, a.WellFormed := by
    simp only [mainAttributes, List.forall_mem_cons]
    refine ⟨⟨by decide, by decide +kernel, by decide, by decide, ?_, by decide⟩,
      ⟨by decide, by decide +kernel, by decide, by decide, ?_, by decide⟩, fun _ h => absurd h List.not_mem_nil⟩
    · exact (by decide +kernel : Spells "a ) (".toList "a ) (".toList)
    · exact ⟨by decide, .of_plain (by decide), by decide⟩
  have hmainHeader : mainBlock.written.WellFormed := by
    refine ⟨by decide +kernel, by decide +kernel, by decide +kernel, by decide +kernel, by decide +kernel,
      fun h => (by cases h), ?_, ?_⟩
    · rintro g ⟨⟩
      decide
    · rintro g ⟨⟩
      exact hattributes
  have hmain : mainBlock.WellFormed ["PROGRAM", "CONTROLLER"] :=
    ⟨hmainHeader, by decide +kernel, by decide +kernel, by decide +kernel, by decide +kernel, by decide +kernel⟩
  have hopenHeader : openBlock.written.WellFormed :=
    ⟨by decide +kernel, by decide +kernel, by decide +kernel, by decide +kernel, by decide +kernel, by decide +kernel,
      fun g h => (by cases h), fun g h => (by cases h)⟩
  have hopen : openBlock.WellFormed ["PROGRAM", "CONTROLLER"] :=
    ⟨hopenHeader, by decide +kernel, by decide +kernel, by decide +kernel, by decide +kernel, by decide +kernel⟩
  have hparts : ∀ p ∈ mainParts, p.WellFormed ["PROGRAM", "CONTROLLER"] := by
    simp only [mainParts, List.forall_mem_cons]
    refine ⟨?_, hmain, ?_, fun _ h => absurd h List.not_mem_nil⟩
    · exact (by decide +kernel : ∀ k ∈ ["PROGRAM", "CONTROLLER"], leadingWord (trim "IE_VER := 2.1;".toList) ≠ some k)
    · exact (by decide +kernel : ∀ k ∈ ["PROGRAM", "CONTROLLER"], leadingWord (trim "TAG".toList) ≠ some k)
  have hlater : Unled ("END_" ++ openBlock.keyword) ["END_TAG".toList] := by decide +kernel
  obtain ⟨hcollect, hunclosed⟩ := collect_written ["PROGRAM", "CONTROLLER"] mainParts hparts
  have hkeyword : openBlock.keyword = "CONTROLLER" := by decide +kernel
  have hname : String.ofList openBlock.written.name = "C" := by decide +kernel
  have herror := (hunclosed openBlock ["END_TAG".toList] hopen hlater).1
  rw [hkeyword, hname] at herror
  exact ⟨hparts, hopen, hlater, hcollect, by decide +kernel, herror⟩

end Block

end LadderAtlas.L5k
