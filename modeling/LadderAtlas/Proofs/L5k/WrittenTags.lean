import LadderAtlas.Proofs.L5k.Names
import LadderAtlas.Proofs.L5k.TagBlock

/-! # Written tags

A tag is declared as `name : TYPE[dims] (attributes) := value`, or as `name OF target (attributes)` where it
is an alias, and the declarations of a block stand one after the other with semicolons between them. The
splitting into statements knows double quotes and groups but not the single quotes of string literals, so
whether a declaration is `Legible` depends on what its value holds: `WrittenTag.WellFormed.legible_iff`.
Declarations that all are legible give the tags of the controller (`Document.read_tags`); one that is not can
swallow those after it (`Document.read_quote_loses_tag`). -/

namespace LadderAtlas.L5k
open Text
open Ladder (IsBlankText)

/-! ### Tags as they are written -/

/-- A name of a tag: no blanks, colons, quotes, brackets and semicolons. -/
structure IsName (s : List Char) : Prop where
  run : IsRun s
  plain : IsPlain s
  colonless : ':' ∉ s

instance (s : List Char) : Decidable (IsName s) :=
  decidable_of_iff (IsRun s ∧ IsPlain s ∧ ':' ∉ s) ⟨fun h => ⟨h.1, h.2.1, h.2.2⟩, fun h => ⟨h.1, h.2, h.3⟩⟩

/-- A declaration `name : TYPE[dims] (attributes) := value`. -/
structure TypedTag where
  name : List Char
  beforeColon : List Char := [' ']
  afterColon : List Char := [' ']
  type : List Char
  /-- Bounds and attributes, with the blanks before them. -/
  further : List Char := []
  beforeSign : List Char := [' ']
  afterSign : List Char := [' ']
  value : Option (List Char) := none

namespace TypedTag

/-- The value with the sign of assignment. -/
def assigned (t : TypedTag) : List Char :=
  match t.value with
  | none => []
  | some v => t.beforeSign ++ ':' :: '=' :: t.afterSign ++ v

def text (t : TypedTag) : List Char :=
  t.name ++ t.beforeColon ++ ':' :: (t.afterColon ++ t.type ++ t.further ++ t.assigned)

structure WellFormed (t : TypedTag) : Prop where
  name : IsName t.name
  beforeColon : IsBlankText t.beforeColon
  afterColon : IsBlankText t.afterColon
  type : IsRun t.type
  plain : IsPlain t.type
  unassigned : '=' ∉ t.type
  further : Sealed false 0 t.further
  beforeSign : IsBlankText t.beforeSign
  afterSign : IsBlankText t.afterSign
  trimmed : trim t.text = t.text

instance (t : TypedTag) : Decidable t.WellFormed :=
  decidable_of_iff
    ((IsName t.name ∧ IsBlankText t.beforeColon ∧ IsBlankText t.afterColon) ∧
      (IsRun t.type ∧ IsPlain t.type ∧ '=' ∉ t.type) ∧
      Sealed false 0 t.further ∧ IsBlankText t.beforeSign ∧ IsBlankText t.afterSign ∧ trim t.text = t.text)
    ⟨fun ⟨⟨hn, hb, ha⟩, ⟨ht, hp, hu⟩, hf, hbs, has, htr⟩ => ⟨hn, hb, ha, ht, hp, hu, hf, hbs, has, htr⟩,
      fun h => ⟨⟨h.name, h.beforeColon, h.afterColon⟩, ⟨h.type, h.plain, h.unassigned⟩, h.further, h.beforeSign,
        h.afterSign, h.trimmed⟩⟩

end TypedTag

/-- A declaration `name OF target (attributes)`. -/
structure AliasTag where
  name : List Char
  beforeOf : List Char := [' ']
  afterOf : List Char := [' ']
  target : List Char
  attributes : List Char := []

namespace AliasTag

def text (t : AliasTag) : List Char :=
  t.name ++ (t.beforeOf ++ 'O' :: 'F' :: (t.afterOf ++ (t.target ++ t.attributes)))

structure WellFormed (t : AliasTag) : Prop where
  name : IsName t.name
  beforeOf : IsGap t.beforeOf
  afterOf : IsGap t.afterOf
  target : IsRun t.target
  parenless : '(' ∉ t.target
  closed : Sealed false 0 t.target
  attributes : Sealed false 0 t.attributes
  trimmed : trim t.text = t.text

instance (t : AliasTag) : Decidable t.WellFormed :=
  decidable_of_iff
    ((IsName t.name ∧ IsGap t.beforeOf ∧ IsGap t.afterOf) ∧
      (IsRun t.target ∧ '(' ∉ t.target ∧ Sealed false 0 t.target) ∧
      Sealed false 0 t.attributes ∧ trim t.text = t.text)
    ⟨fun ⟨⟨hn, hb, ha⟩, ⟨ht, hp, hc⟩, hattr, htr⟩ => ⟨hn, hb, ha, ht, hp, hc, hattr, htr⟩,
      fun h => ⟨⟨h.name, h.beforeOf, h.afterOf⟩, ⟨h.target, h.parenless, h.closed⟩, h.attributes, h.trimmed⟩⟩

end AliasTag

inductive WrittenTag where
  | typed (t : TypedTag)
  | aliased (t : AliasTag)

namespace WrittenTag

def name : WrittenTag → List Char
  | .typed t => t.name
  | .aliased t => t.name

def text : WrittenTag → List Char
  | .typed t => t.text
  | .aliased t => t.text

def WellFormed : WrittenTag → Prop
  | .typed t => t.WellFormed
  | .aliased t => t.WellFormed

instance : (t : WrittenTag) → Decidable t.WellFormed
  | .typed t => inferInstanceAs (Decidable t.WellFormed)
  | .aliased t => inferInstanceAs (Decidable t.WellFormed)

/-- The value is passed over by the splitting into statements, and nothing makes the text look like an
alias. -/
def Legible : WrittenTag → Prop
  | .typed t => Sealed false 0 (t.value.getD []) ∧ ∀ name, ¬ AliasForm name t.text
  | .aliased _ => True

end WrittenTag

/-- A statement is read as a declaration of a name. -/
def Names (s name : List Char) : Prop := ∃ d, Declaration.parse? s = some d ∧ d.name = String.ofList name

namespace TypedTag.WellFormed
variable {t : TypedTag}

/-- Only the value decides whether a declaration ends where it should. -/
theorem sealed_text_iff (h : t.WellFormed) : Sealed false 0 t.text ↔ Sealed false 0 (t.value.getD []) := by
  have hcolon : IsPlain [':'] := by decide
  have hsign : IsPlain [':', '='] := by decide
  have hassigned : Sealed false 0 t.assigned ↔ Sealed false 0 (t.value.getD []) := by
    rw [assigned]
    cases t.value with
    | none => rfl
    | some v =>
      have hv : t.beforeSign ++ ':' :: '=' :: t.afterSign ++ v =
          t.beforeSign ++ ([':', '='] ++ (t.afterSign ++ v)) := by simp
      simp only [Option.getD_some]
      rw [hv, (isPlain_of_blank h.beforeSign).sealed.append_iff, hsign.sealed.append_iff,
        (isPlain_of_blank h.afterSign).sealed.append_iff]
  have htext : t.text =
      t.name ++ (t.beforeColon ++ ([':'] ++ (t.afterColon ++ (t.type ++ (t.further ++ t.assigned))))) := by
    simp [text]
  rw [htext, h.name.plain.sealed.append_iff, (isPlain_of_blank h.beforeColon).sealed.append_iff,
    hcolon.sealed.append_iff, (isPlain_of_blank h.afterColon).sealed.append_iff, h.plain.sealed.append_iff,
    h.further.append_iff, hassigned]

theorem not_form_name (h : t.WellFormed) : ¬ AliasForm t.name t.text := by
  rintro ⟨gap, gap', x, rest, hname, hgap, -, -, -, he⟩
  rw [text, List.append_assoc] at he
  exact absurd (eq_of_blank_append h.beforeColon hgap.blank (by decide) (by decide) (List.append_cancel_left he))
    (by decide)

theorem trim_before_colon (h : t.WellFormed) : trim (t.name ++ t.beforeColon) = t.name :=
  (trim_append_blank h.beforeColon t.name).trans h.name.run.trim_eq

theorem not_mem_before_colon (h : t.WellFormed) : ∀ c ∈ t.name ++ t.beforeColon, c ∉ ['"', ':'] := by
  intro c hc
  simp only [List.mem_cons, List.not_mem_nil, or_false, not_or]
  rcases List.mem_append.1 hc with hc | hc
  · exact ⟨fun he => h.name.plain c hc (by simp [marks, he]), fun he => h.name.colonless (he ▸ hc)⟩
  · have hblank := h.beforeColon c hc
    exact ⟨fun he => absurd (he ▸ hblank) (by decide), fun he => absurd (he ▸ hblank) (by decide)⟩

/-- The colon after the name is not that of a sign of assignment. -/
theorem head_after_colon (h : t.WellFormed) :
    (t.afterColon ++ t.type ++ t.further ++ t.assigned).head? ≠ some '=' := by
  obtain ⟨c, u, hu⟩ : ∃ c u, t.afterColon ++ t.type = c :: u :=
    List.exists_cons_of_ne_nil (List.append_ne_nil_of_right_ne_nil _ h.type.ne_nil)
  have hc : c ∈ t.afterColon ++ t.type := by simp [hu]
  rw [hu, List.cons_append, List.cons_append, List.head?_cons]
  intro he
  obtain rfl := Option.some.inj he
  rcases List.mem_append.1 hc with hc | hc
  · exact absurd (h.afterColon _ hc) (by decide)
  · exact h.unassigned hc

/-- A declaration is read under its name if it has not the form of an alias, and only then. -/
theorem names_iff (h : t.WellFormed) : Names t.text t.name ↔ ∀ name, ¬ AliasForm name t.text := by
  constructor
  · rintro ⟨d, hd, hname⟩ name hform
    obtain ⟨e, he, hename⟩ := Declaration.alias?_of_form hform
    rw [Declaration.parse?, he, Option.some_or] at hd
    obtain rfl := Option.some.inj hd
    rw [hname] at hename
    obtain rfl := String.ofList_injective hename
    exact h.not_form_name hform
  · intro hform
    have halias : Declaration.alias? t.text = none := by
      cases ha : Declaration.alias? t.text with
      | none => rfl
      | some d =>
        obtain ⟨name, hname, -⟩ := Declaration.form_of_alias? ha
        exact absurd hname (hform name)
    have hne : trim (t.name ++ t.beforeColon) ≠ [] := by
      rw [h.trim_before_colon]
      exact h.name.run.ne_nil
    obtain ⟨d, hd, hname⟩ := Declaration.typed?_of_colon h.not_mem_before_colon hne h.head_after_colon
    rw [h.trim_before_colon] at hname
    refine ⟨d, ?_, hname⟩
    rw [Declaration.parse?, halias, Option.none_or]
    exact hd

/-- A declaration with a blank before its colon has not the form of an alias. -/
theorem not_form_of_blank (h : t.WellFormed) (hne : t.beforeColon ≠ []) (name : List Char) :
    ¬ AliasForm name t.text := by
  rw [text, List.append_assoc]
  exact not_form_of_colon h.name.run ⟨hne, h.beforeColon⟩ _ name

-- without that blank the word in a value is enough
example : AliasForm "A:STRING:='x".toList "A:STRING:='x OF y'".toList :=
  ⟨[' '], [' '], 'y', ['\''], by decide +kernel, by decide, by decide, by decide, by decide, by decide +kernel⟩

end TypedTag.WellFormed

namespace AliasTag.WellFormed
variable {t : AliasTag}

theorem sealed_text (h : t.WellFormed) : Sealed false 0 t.text := by
  have hof : IsPlain ['O', 'F'] := by decide
  have htext : t.text = t.name ++ (t.beforeOf ++ (['O', 'F'] ++ (t.afterOf ++ (t.target ++ t.attributes)))) := rfl
  rw [htext, h.name.plain.sealed.append_iff, (isPlain_of_blank h.beforeOf.blank).sealed.append_iff,
    hof.sealed.append_iff, (isPlain_of_blank h.afterOf.blank).sealed.append_iff, h.closed.append_iff]
  exact h.attributes

theorem names_text (h : t.WellFormed) : Names t.text t.name := by
  obtain ⟨x, xs, htarget⟩ := List.exists_cons_of_ne_nil h.target.ne_nil
  have hx : x ∈ t.target := by simp [htarget]
  have hform : AliasForm t.name t.text :=
    ⟨t.beforeOf, t.afterOf, x, xs ++ t.attributes, h.name.run, h.beforeOf, h.afterOf, h.target.solid x hx,
      fun he => h.parenless (he ▸ hx), by rw [text, htarget, List.cons_append]⟩
  obtain ⟨d, hd, hname⟩ := Declaration.alias?_of_form hform
  exact ⟨d, by rw [Declaration.parse?, hd, Option.some_or], hname⟩

end AliasTag.WellFormed

namespace WrittenTag
variable {t : WrittenTag}

theorem WellFormed.isName (h : t.WellFormed) : IsName t.name := by
  cases t with
  | typed t => exact TypedTag.WellFormed.name h
  | aliased t => exact AliasTag.WellFormed.name h

theorem WellFormed.trimmed (h : t.WellFormed) : trim t.text = t.text := by
  cases t with
  | typed t => exact TypedTag.WellFormed.trimmed h
  | aliased t => exact AliasTag.WellFormed.trimmed h

theorem exists_text (t : WrittenTag) : ∃ s, t.text = t.name ++ s := by
  cases t with
  | typed t => exact ⟨_, List.append_assoc _ _ _⟩
  | aliased t => exact ⟨_, rfl⟩

theorem WellFormed.legible_iff (h : t.WellFormed) : Sealed false 0 t.text ∧ Names t.text t.name ↔ t.Legible := by
  cases t with
  | typed t => exact and_congr (TypedTag.WellFormed.sealed_text_iff h) (TypedTag.WellFormed.names_iff h)
  | aliased t =>
    exact iff_of_true ⟨AliasTag.WellFormed.sealed_text h, AliasTag.WellFormed.names_text h⟩ trivial

end WrittenTag

/-! ### Blocks of written tags -/

/-- A declaration with the blanks around it, its semicolon apart. -/
structure PlacedTag where
  before : List Char := []
  tag : WrittenTag
  after : List Char := []

namespace PlacedTag

def text (p : PlacedTag) : List Char := p.before ++ p.tag.text ++ p.after

structure WellFormed (p : PlacedTag) : Prop where
  before : IsBlankText p.before
  tag : p.tag.WellFormed
  after : IsBlankText p.after

instance (p : PlacedTag) : Decidable p.WellFormed :=
  decidable_of_iff (IsBlankText p.before ∧ p.tag.WellFormed ∧ IsBlankText p.after)
    ⟨fun h => ⟨h.1, h.2.1, h.2.2⟩, fun h => ⟨h.before, h.tag, h.after⟩⟩

variable {p : PlacedTag}

theorem WellFormed.trim_text (h : p.WellFormed) : trim p.text = p.tag.text :=
  (Ladder.trim_surrounded h.before h.after _).trans h.tag.trimmed

theorem WellFormed.sealed_iff (h : p.WellFormed) : Sealed false 0 p.text ↔ Sealed false 0 p.tag.text := by
  rw [text, sealed_append_plain (isPlain_of_blank h.after), (isPlain_of_blank h.before).sealed.append_iff]

theorem WellFormed.begins (h : p.WellFormed) : Begins p.text := by
  obtain ⟨s, hs⟩ := p.tag.exists_text
  obtain ⟨x, xs, hname⟩ := List.exists_cons_of_ne_nil h.tag.isName.run.ne_nil
  have hx : x ∈ p.tag.name := by simp [hname]
  refine ⟨p.before, x, xs ++ s ++ p.after, h.before, h.tag.isName.run.solid x hx, ?_, ?_⟩
  · rintro rfl
    exact h.tag.isName.plain _ hx (by decide)
  · simp [text, hs, hname]

end PlacedTag

/-- The text of a block of declarations, each with a semicolon after it. -/
def written (ps : List PlacedTag) (last : List Char) : List Char := terminated (ps.map (·.text)) last

/-- The statements of a block are the declarations, and each is read under its name. -/
structure ReadApart (lines : List (List Char)) (ps : List PlacedTag) : Prop where
  statements : statements lines = ps.map (·.tag.text)
  names : ∀ p ∈ ps, Names p.tag.text p.tag.name

/-- Lines that hold declarations of tags, wherever they are broken between two words. -/
structure Holds (lines : List (List Char)) (ps : List PlacedTag) : Prop where
  wellFormed : ∀ p ∈ ps, p.WellFormed
  text : ∃ last, IsBlankText last ∧ blockText lines = written ps last

/-- Declarations are read apart if each of them is legible, and only then. -/
theorem readApart_iff {lines : List (List Char)} {ps : List PlacedTag} (h : Holds lines ps) :
    ReadApart lines ps ↔ ∀ p ∈ ps, p.tag.Legible := by
  obtain ⟨last, hlast, htext⟩ := h.text
  have hbegins : ∀ s ∈ ps.map (·.text), Begins s := by
    intro s hs
    obtain ⟨p, hp, rfl⟩ := List.mem_map.1 hs
    exact (h.wellFormed p hp).begins
  have htrim : (ps.map (·.text)).map trim = ps.map (·.tag.text) := by
    rw [List.map_map]
    exact List.map_congr_left fun p hp => (h.wellFormed p hp).trim_text
  have hsealed : statements lines = ps.map (·.tag.text) ↔ ∀ p ∈ ps, Sealed false 0 p.tag.text := by
    rw [statements_eq, htext, ← htrim, written, statementsOf_terminated_iff hbegins hlast, List.forall_mem_map]
    exact forall₂_congr fun p hp => (h.wellFormed p hp).sealed_iff
  constructor
  · intro hread p hp
    exact (h.wellFormed p hp).tag.legible_iff.1 ⟨hsealed.1 hread.statements p hp, hread.names p hp⟩
  · intro hlegible
    have hboth := fun p hp => (h.wellFormed p hp).tag.legible_iff.2 (hlegible p hp)
    exact ⟨hsealed.2 fun p hp => (hboth p hp).1, fun p hp => (hboth p hp).2⟩

theorem ReadApart.declaredNames_eq {lines : List (List Char)} {ps : List PlacedTag} (h : ReadApart lines ps) :
    declaredNames lines = ps.map fun p => String.ofList p.tag.name := by
  rw [declaredNames, h.statements, List.filterMap_map]
  have hnames := h.names
  clear h
  induction ps with
  | nil => rfl
  | cons p ps ih =>
    obtain ⟨d, hd, hname⟩ := hnames p (by simp)
    have hp : (Declaration.parse? ∘ fun q : PlacedTag => q.tag.text) p = some d := hd
    rw [List.filterMap_cons_some hp, List.map_cons, List.map_cons, hname,
      ih fun q hq => hnames q (List.mem_cons_of_mem _ hq)]

/-! ### String literals -/

/-- What stands between the single quotes of a string literal: printable characters, where a dollar sign
takes the next one with it. -/
inductive LiteralBody : List Char → Prop
  | nil : LiteralBody []
  | char {c : Char} {s : List Char} (hc : c ∉ ['\'', '$']) (hp : isPrintable c = true) (hs : LiteralBody s) :
      LiteralBody (c :: s)
  | escape {c : Char} {s : List Char} (hp : isPrintable c = true) (hs : LiteralBody s) :
      LiteralBody ('$' :: c :: s)

def literal (body : List Char) : List Char := '\'' :: body ++ ['\'']

/-- The single quotes of a literal hide nothing of what is between them. -/
theorem sealed_literal_iff (body : List Char) : Sealed false 0 (literal body) ↔ Sealed false 0 body := by
  have hquote : IsPlain ['\''] := by decide
  have htext : literal body = ['\''] ++ (body ++ ['\'']) := rfl
  rw [htext, hquote.sealed.append_iff, sealed_append_plain hquote]

end LadderAtlas.L5k

namespace LadderAtlas.Document
open L5k

/-- A file whose tag block holds declarations is read. The declarations are read apart if each of them is
legible, and only then; so read, they are the tags of the controller under their names and in their order. -/
theorem read_tags (f : TagFile) (hf : f.WellFormed) (ps : List PlacedTag) (hps : Holds f.tags.body ps)
    (bytes : List UInt8) (hbytes : IsText f (decodeBytes bytes)) :
    (ReadApart f.tags.body ps ↔ ∀ p ∈ ps, p.tag.Legible) ∧
    ∃ d : Document, (read .l5k bytes).result = .ok d ∧
      ((∀ p ∈ ps, p.tag.Legible) → controllerNames d.toContents = ps.map fun p => String.ofList p.tag.name) := by
  obtain ⟨d, hread, hnames⟩ := hf.read hbytes
  refine ⟨readApart_iff hps, d, hread, fun hlegible => ?_⟩
  rw [hnames]
  exact ((readApart_iff hps).2 hlegible).declaredNames_eq

def tagFile (body : List String) : TagFile where
  opening := "CONTROLLER C".toList
  tags := { opening := "TAG".toList, body := body.map String.toList, closing := "END_TAG".toList }
  closing := "END_CONTROLLER".toList

theorem wellFormed_tagFile {body : List String} (hcontroller : (tagFile body).controller.IsBlock "CONTROLLER")
    (htags : (tagFile body).tags.IsBlock "TAG") : (tagFile body).WellFormed := by
  have hnone : OtherParts [] := ⟨[], by rw [Block.collect], fun b hb => absurd hb List.not_mem_nil⟩
  exact ⟨fun l hl => absurd hl List.not_mem_nil, hcontroller, hnone, htags, hnone, ⟨[], by rw [tagFile, Block.collect]⟩⟩

/-- The bytes of a file of ASCII characters. -/
def bytesOf (f : TagFile) : List UInt8 :=
  f.lines.flatMap fun l => l.map (fun c => UInt8.ofNat c.toNat) ++ [10]

def tankFile : TagFile := tagFile [
  "Note : STRING := 'a (b)';",
  "Level : DINT[2] (U := \"m; l\") := [1, 2];",
  "Copy OF Level;"]

def noteTag : TypedTag := { name := "Note".toList, type := "STRING".toList, value := some (literal "a (b)".toList) }

def levelTag : TypedTag :=
  { name := "Level".toList, type := "DINT".toList, further := "[2] (U := \"m; l\")".toList
    value := some "[1, 2]".toList }

def tankTags : List PlacedTag := [
  { tag := .typed noteTag }, { before := [' '], tag := .typed levelTag },
  { before := [' '], tag := .aliased { name := "Copy".toList, target := "Level".toList } }]

theorem isText_of_none {f : TagFile} {s : List Char} (hlines : Text.lines s = f.lines) (h : revision? true s = none) :
    IsText f s := ⟨hlines, none, by rw [checkRevision, h]⟩

theorem read_tags_tank :
    tankFile.WellFormed ∧ Holds tankFile.tags.body tankTags ∧ IsText tankFile (decodeBytes (bytesOf tankFile)) ∧
    ∃ d : Document, (read .l5k (bytesOf tankFile)).result = .ok d ∧
      controllerNames d.toContents = ["Note", "Level", "Copy"] := by
  have hfile : tankFile.WellFormed := wellFormed_tagFile (by decide +kernel) (by decide +kernel)
  have htext : IsText tankFile (decodeBytes (bytesOf tankFile)) :=
    isText_of_none (by decide +kernel) (by decide +kernel)
  have hholds : Holds tankFile.tags.body tankTags := ⟨by decide +kernel, [], by decide, by decide +kernel⟩
  have hnote : noteTag.WellFormed := by decide +kernel
  have hlevel : levelTag.WellFormed := by decide +kernel
  have hlegible : ∀ p ∈ tankTags, p.tag.Legible := by
    intro p hp
    simp only [tankTags, List.mem_cons, List.not_mem_nil, or_false] at hp
    rcases hp with rfl | rfl | rfl
    · exact ⟨(sealed_literal_iff _).2 (by decide +kernel), hnote.not_form_of_blank (by decide)⟩
    · exact ⟨by decide +kernel, hlevel.not_form_of_blank (by decide)⟩
    · trivial
  obtain ⟨-, d, hread, hnames⟩ := read_tags tankFile hfile tankTags hholds _ htext
  exact ⟨hfile, hholds, htext, d, hread, hnames hlegible⟩

def quoteFile : TagFile := tagFile ["A : STRING := '\"';", "B : DINT;"]

def quoteTags : List PlacedTag := [
  { tag := .typed { name := ['A'], type := "STRING".toList, value := some (literal ['"']) } },
  { before := [' '], tag := .typed { name := ['B'], type := "DINT".toList } }]

/-- A double quote in a string literal begins a stretch that swallows the declarations after it. -/
theorem read_quote_loses_tag :
    quoteFile.WellFormed ∧ Holds quoteFile.tags.body quoteTags ∧ IsText quoteFile (decodeBytes (bytesOf quoteFile)) ∧
    LiteralBody ['"'] ∧ (quoteTags.map fun p => String.ofList p.tag.name) = ["A", "B"] ∧
    ∃ d : Document, (read .l5k (bytesOf quoteFile)).result = .ok d ∧ controllerNames d.toContents = ["A"] := by
  have hfile : quoteFile.WellFormed := wellFormed_tagFile (by decide +kernel) (by decide +kernel)
  have htext : IsText quoteFile (decodeBytes (bytesOf quoteFile)) :=
    isText_of_none (by decide +kernel) (by decide +kernel)
  have hholds : Holds quoteFile.tags.body quoteTags := ⟨by decide +kernel, [], by decide, by decide +kernel⟩
  have hbody : LiteralBody ['"'] := .char (by decide) (by decide +kernel) .nil
  obtain ⟨d, hread, hnames⟩ := hfile.read htext
  exact ⟨hfile, hholds, htext, hbody, by decide, d, hread, hnames.trans (by decide +kernel)⟩

end LadderAtlas.Document
