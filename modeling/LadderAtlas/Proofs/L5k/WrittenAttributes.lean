import LadderAtlas.Proofs.L5k.Nesting
import Mathlib.Data.List.Nodup

/-!
# Written attributes

An attribute is written as its key, the sign of assignment and its value, with blanks where they may stand, and
attributes have commas between them. The value may be spelled between quotes, where a dollar sign and a doubled quote
stand for one character, or be bare. The splitting at commas knows nothing of spellings: to it a doubled quote is
the end of one quoted stretch and the beginning of the next. Still a spelled value is `Nested` (`Spells.nested`), so
the two agree on where a value ends, and every list is read as it was written: `Attributes.parse_written`.
-/

namespace LadderAtlas.L5k
open Text
open Ladder (IsBlankText trim_surrounded)

/-! ### Spelled values -/

/-- How a character may be written between quotes. -/
def spellings : Char → List (List Char)
  | '$' => [['$', '$']]
  | '"' => [['$', '"'], ['"', '"']]
  | '\n' => [['$', 'N'], ['\n']]
  | '\t' => [['$', 'T'], ['\t']]
  | '\r' => [['$', 'R'], ['\r']]
  | '\x0c' => [['$', 'P'], ['\x0c']]
  | c => [[c]]

/-- A code is one way to write a value between quotes. -/
inductive Spells : (code value : List Char) → Prop
  | nil : Spells [] []
  | cons {c : Char} {p code value : List Char} (hp : p ∈ spellings c) (h : Spells code value) :
      Spells (p ++ code) (c :: value)

/-- A character is spelled by a dollar sign and one more, as a doubled quote, or by itself. -/
theorem spellings_cases {c : Char} {p : List Char} (h : p ∈ spellings c) :
    (∃ d, p = ['$', d] ∧ escaped d = c) ∨ p = ['"', '"'] ∧ c = '"' ∨ p = [c] ∧ c ∉ ['$', '"'] := by
  unfold spellings at h
  split at h
  · exact .inl ⟨'$', List.mem_singleton.1 h, by decide⟩
  · rcases List.mem_pair.1 h with rfl | rfl
    · exact .inl ⟨'"', rfl, by decide⟩
    · exact .inr (.inl ⟨rfl, rfl⟩)
  · rcases List.mem_pair.1 h with rfl | rfl
    · exact .inl ⟨'N', rfl, by decide⟩
    · exact .inr (.inr ⟨rfl, by decide⟩)
  · rcases List.mem_pair.1 h with rfl | rfl
    · exact .inl ⟨'T', rfl, by decide⟩
    · exact .inr (.inr ⟨rfl, by decide⟩)
  · rcases List.mem_pair.1 h with rfl | rfl
    · exact .inl ⟨'R', rfl, by decide⟩
    · exact .inr (.inr ⟨rfl, by decide⟩)
  · rcases List.mem_pair.1 h with rfl | rfl
    · exact .inl ⟨'P', rfl, by decide⟩
    · exact .inr (.inr ⟨rfl, by decide⟩)
  · rename_i hdollar hquote _ _ _ _
    exact .inr (.inr ⟨List.mem_singleton.1 h, by simpa using ⟨hdollar, hquote⟩⟩)

namespace Spells
variable {code value : List Char}

theorem decode_eq (h : Spells code value) : decode code = value := by
  induction h with
  | nil => rfl
  | @cons c p code value hp _ ih =>
    rcases spellings_cases hp with ⟨d, rfl, hd⟩ | ⟨rfl, rfl⟩ | ⟨rfl, hplain⟩
    · show escaped d :: decode code = _
      rw [hd, ih]
    · show '"' :: decode code = _
      rw [ih]
    · rw [List.singleton_append, decode, ih]
      · rintro d t rfl -
        exact hplain (by simp)
      · rintro t rfl -
        exact hplain (by simp)

/-- Between quotes a code is nested, wherever in a quoted stretch it begins. -/
theorem nested_append {inside : Bool} (h : Spells code value) {t s : List Char} (ht : IsQuotable t)
    (hs : Nested inside s) : Nested inside ('"' :: (t ++ code) ++ '"' :: s) := by
  induction h generalizing t with
  | nil =>
    rw [List.append_nil]
    exact .quoted ht hs
  | @cons c p code value hp _ ih =>
    rcases spellings_cases hp with ⟨d, rfl, -⟩ | ⟨rfl, -⟩ | ⟨rfl, hplain⟩
    · rw [← List.append_assoc t]
      exact ih (ht.append (.escape .nil))
    · -- the first quote ends the stretch, and the second one begins another
      have htext : '"' :: (t ++ (['"', '"'] ++ code)) ++ '"' :: s =
          '"' :: t ++ '"' :: ('"' :: ([] ++ code) ++ '"' :: s) := by
        simp
      rw [htext]
      exact .quoted ht (ih .nil)
    · rw [← List.append_assoc t]
      exact ih (ht.append (.plain hplain .nil))

theorem nested (h : Spells code value) : Nested false ('"' :: code ++ ['"']) := h.nested_append .nil .nil

theorem nil_iff : Spells code [] ↔ code = [] := by
  constructor
  · intro h
    cases h
    rfl
  · rintro rfl
    exact .nil

theorem cons_iff {c : Char} :
    Spells code (c :: value) ↔ ∃ p ∈ spellings c, p <+: code ∧ Spells (code.drop p.length) value := by
  constructor
  · intro h
    cases h with
    | @cons _ p code _ hp h => exact ⟨p, hp, List.prefix_append p code, by rwa [List.drop_left]⟩
  · rintro ⟨p, hp, ⟨code, rfl⟩, h⟩
    rw [List.drop_left] at h
    exact .cons hp h

instance decidable : (code value : List Char) → Decidable (Spells code value)
  | _, [] => decidable_of_iff _ nil_iff.symm
  | code, _ :: value =>
    have := fun p : List Char => decidable (code.drop p.length) value
    decidable_of_iff _ cons_iff.symm

end Spells

/-! ### Texts without a sign of assignment -/

/-- The sign of assignment does not occur. -/
def Unassigned (s : List Char) : Prop := ¬ [':', '='] <:+: s

instance (s : List Char) : Decidable (Unassigned s) := inferInstanceAs (Decidable (¬ _ <:+: s))

namespace Unassigned
variable {c : Char} {s t : List Char}

theorem cons_iff : Unassigned (c :: s) ↔ ¬ (c = ':' ∧ s.head? = some '=') ∧ Unassigned s := by
  have hprefix : [':', '='] <+: c :: s ↔ c = ':' ∧ s.head? = some '=' := by
    cases s with
    | nil => simp [List.cons_prefix_cons]
    | cons d s => simp [List.cons_prefix_cons, eq_comm]
  rw [Unassigned, List.infix_cons_iff, not_or, hprefix]
  rfl

theorem nil : Unassigned [] := by decide

/-- A text is told apart at a character that does not belong to the sign. -/
theorem append_cons_iff (hc : c ∉ [':', '=']) : Unassigned (s ++ c :: t) ↔ Unassigned s ∧ Unassigned t := by
  simp only [List.mem_cons, List.not_mem_nil, or_false, not_or] at hc
  induction s with
  | nil => simp [cons_iff, hc, nil]
  | cons d s ih =>
    have hhead : (s ++ c :: t).head? = some '=' ↔ s.head? = some '=' := by
      cases s with
      | nil => simp [hc]
      | cons => rfl
    rw [List.cons_append, cons_iff, cons_iff, ih, hhead, and_assoc]

theorem of_notMem (h : '=' ∉ s) : Unassigned s := fun hs => h (hs.subset (by simp))

/-- Blanks around a text do not make a sign. -/
theorem surrounded {b a : List Char} (hb : IsBlankText b) (hs : Unassigned s) (ha : IsBlankText a) :
    Unassigned (b ++ s ++ a) := by
  replace hb : Avoids [':', '='] b := .of_blank (by decide) hb
  replace ha : Avoids [':', '='] a := .of_blank (by decide) ha
  induction b with
  | cons c b ih =>
    rw [List.cons_append, List.cons_append]
    exact (append_cons_iff (s := []) (hb c (by simp))).2 ⟨nil, ih fun d hd => hb d (List.mem_cons_of_mem _ hd)⟩
  | nil =>
    cases a with
    | nil => rwa [List.nil_append, List.append_nil]
    | cons c a =>
      refine (append_cons_iff (ha c (by simp))).2 ⟨hs, of_notMem fun hm => ?_⟩
      exact ha '=' (List.mem_cons_of_mem c hm) (by simp)

theorem joined {l : List (List Char)} (hc : c ∉ [':', '=']) (h : ∀ s ∈ l, Unassigned s) :
    Unassigned (Text.joined [c] l) := by
  induction l with
  | nil => exact .nil
  | cons s l ih =>
    have hs := h s (by simp)
    by_cases hl : l = []
    · subst hl
      exact hs
    · rw [joined_cons hl, List.append_assoc, List.singleton_append]
      exact (append_cons_iff hc).2 ⟨hs, ih fun t ht => h t (List.mem_cons_of_mem _ ht)⟩

theorem splitAssign_cons (h : ¬ (c = ':' ∧ s.head? = some '=')) :
    splitAssign (c :: s) = (splitAssign s).map fun p => (c :: p.1, p.2) := by
  rw [splitAssign]
  rintro t rfl rfl
  exact h ⟨rfl, rfl⟩

theorem splitAssign_eq_none (h : Unassigned s) : splitAssign s = none := by
  induction s with
  | nil => rfl
  | cons c s ih =>
    obtain ⟨hsign, hs⟩ := cons_iff.1 h
    rw [splitAssign_cons hsign, ih hs]
    rfl

/-- A sign of assignment after such a text is the first one, if what is between them does not belong to it. -/
theorem splitAssign_append_cons (h : Unassigned s) (hc : c ≠ '=') (t : List Char) :
    splitAssign (s ++ c :: t) = (splitAssign (c :: t)).map fun p => (s ++ p.1, p.2) := by
  induction s with
  | nil => exact (Option.map_id').symm
  | cons d s ih =>
    obtain ⟨hsign, hs⟩ := cons_iff.1 h
    rw [List.cons_append, splitAssign_cons, ih hs, Option.map_map]
    · rfl
    · cases s with
      | nil => simp [hc]
      | cons => exact hsign

/-- What stands before the first sign of assignment. -/
theorem splitAssign_append (h : Unassigned s) (t : List Char) :
    splitAssign (s ++ ':' :: '=' :: t) = some (s, t) := by
  rw [h.splitAssign_append_cons (by decide)]
  simp [splitAssign]

end Unassigned

/-! ### Attributes as they are written -/

inductive WrittenValue where
  /-- Between quotes, spelled by a code. -/
  | quoted (value code : List Char)
  | bare (value : List Char)

namespace WrittenValue

def value : WrittenValue → List Char
  | .quoted v _ => v
  | .bare v => v

def text : WrittenValue → List Char
  | .quoted _ code => '"' :: code ++ ['"']
  | .bare v => v

/-- A bare value is trimmed and nested, and is not taken for one between quotes. -/
def WellFormed : WrittenValue → Prop
  | .quoted v code => Spells code v
  | .bare v => trim v = v ∧ Nested false v ∧ ¬ (v.head? = some '"' ∧ v.getLast? = some '"')

variable {v : WrittenValue}

theorem WellFormed.trim_text (h : v.WellFormed) : trim v.text = v.text := by
  cases v with
  | quoted v code =>
    have hquote : IsTrimmed ['"'] := .of_solid (by decide)
    exact (hquote.append hquote code).trim_eq
  | bare v => exact h.1

theorem WellFormed.nested (h : v.WellFormed) : Nested false v.text := by
  cases v with
  | quoted v code => exact Spells.nested h
  | bare v => exact h.2.1

theorem WellFormed.value_text (h : v.WellFormed) : L5k.value v.text = v.value := by
  cases v with
  | quoted v code =>
    have hcode : decode code = v := Spells.decode_eq h
    simp [text, L5k.value, hcode, value]
  | bare v =>
    show L5k.value v = v
    rw [L5k.value.eq_def]
    split
    · rename_i rest
      split
      · rename_i hlast
        refine absurd ⟨rfl, ?_⟩ h.2.2
        rw [List.getLast?_cons, hlast]
        rfl
      · rfl
    · rfl

end WrittenValue

/-- A key of an attribute: no quotes, commas, parentheses, brackets and signs of assignment. -/
structure IsKey (s : List Char) : Prop where
  trimmed : IsTrimmed s
  plain : Avoids (',' :: groupMarks) s
  unassigned : Unassigned s

instance (s : List Char) : Decidable (IsKey s) :=
  decidable_of_iff (IsTrimmed s ∧ Avoids (',' :: groupMarks) s ∧ Unassigned s)
    ⟨fun h => ⟨h.1, h.2.1, h.2.2⟩, fun h => ⟨h.1, h.2, h.3⟩⟩

/-- An attribute with the blanks around its parts. -/
structure WrittenAttribute where
  before : List Char := []
  key : List Char
  beforeSign : List Char := [' ']
  afterSign : List Char := [' ']
  value : WrittenValue
  after : List Char := []

namespace WrittenAttribute

def text (a : WrittenAttribute) : List Char :=
  a.before ++ a.key ++ a.beforeSign ++ ':' :: '=' :: (a.afterSign ++ a.value.text ++ a.after)

/-- The attribute that is written. -/
def pair (a : WrittenAttribute) : String × String := (String.ofList a.key, String.ofList a.value.value)

structure WellFormed (a : WrittenAttribute) : Prop where
  before : IsBlankText a.before
  key : IsKey a.key
  beforeSign : IsBlankText a.beforeSign
  afterSign : IsBlankText a.afterSign
  value : a.value.WellFormed
  after : IsBlankText a.after

namespace WellFormed
variable {a : WrittenAttribute}

theorem nested_text (h : a.WellFormed) : Nested false a.text := by
  have hsign : Nested false [':', '='] := .of_plain (by decide)
  have hkey : Nested false (a.before ++ a.key ++ a.beforeSign) :=
    ((Nested.of_blank h.before).append (.of_plain h.key.plain)).append (.of_blank h.beforeSign)
  have hvalue : Nested false (a.afterSign ++ a.value.text ++ a.after) :=
    ((Nested.of_blank h.afterSign).append h.value.nested).append (.of_blank h.after)
  exact hkey.append (hsign.append hvalue)

theorem pair?_text (h : a.WellFormed) : Attributes.pair? a.text = some a.pair := by
  have hkey : trim (a.before ++ a.key ++ a.beforeSign) = a.key := by
    rw [trim_surrounded h.before h.beforeSign, h.key.trimmed.trim_eq]
  have hvalue : trim (a.afterSign ++ a.value.text ++ a.after) = a.value.text := by
    rw [trim_surrounded h.afterSign h.after, h.value.trim_text]
  have hunassigned := Unassigned.surrounded h.before h.key.unassigned h.beforeSign
  have hsplit : splitAssign a.text = _ := hunassigned.splitAssign_append _
  rw [Attributes.pair?, hsplit]
  simp only [hkey, hvalue, h.value.value_text]
  split
  · rename_i hnil
    exact absurd hnil h.key.trimmed.ne_nil
  · rfl

end WellFormed

end WrittenAttribute

/-- The attributes with commas between them. -/
def listText (l : List WrittenAttribute) : List Char := joined [','] (l.map (·.text))

/-- The attributes of a list; of equal keys the last value counts. -/
def attributesOf (l : List WrittenAttribute) : Attributes := Keyed.ofList (l.map (·.pair))

theorem nested_listText {l : List WrittenAttribute} (hl : ∀ a ∈ l, a.WellFormed) : Nested true (listText l) :=
  .joined (List.forall_mem_map.2 fun a ha => (hl a ha).nested_text)

namespace Attributes

theorem parse_listText {l : List WrittenAttribute} (hl : ∀ a ∈ l, a.WellFormed) :
    parse (listText l) = attributesOf l := by
  cases l with
  | nil => rfl
  | cons a l =>
    have hsplit : splitTop ',' (listText (a :: l)) = (a :: l).map (·.text) :=
      splitTop_joined (by simp) (List.forall_mem_map.2 fun b hb => (hl b hb).nested_text)
    have hpairs : ((a :: l).map (·.text)).filterMap pair? = (a :: l).map (·.pair) := by
      rw [List.filterMap_map, ← List.filterMap_eq_map]
      exact List.filterMap_congr fun b hb => (hl b hb).pair?_text
    rw [parse, hsplit, hpairs, attributesOf]

/-- Attributes with distinct keys are read with these keys, in their order and with their values. -/
theorem parse_written (l : List WrittenAttribute) (hl : ∀ a ∈ l, a.WellFormed) (hkeys : (l.map (·.key)).Nodup) :
    parse (listText l) = l.map (·.pair) := by
  have hnodup : (Keyed.keys (l.map (·.pair))).Nodup := by
    have hnames : Keyed.keys (l.map (·.pair)) = (l.map (·.key)).map String.ofList := by
      rw [Keyed.keys, List.map_map, List.map_map]
      rfl
    rw [hnames]
    exact List.Nodup.map (fun _ _ => String.ofList_injective) hkeys
  rw [parse_listText hl, attributesOf, Keyed.ofList_of_nodup hnodup]

/-- A text with marks of every kind, spelled in both ways, and a bare list of bounds. -/
def gaugeAttributes : List WrittenAttribute := [
  { key := "Description".toList, value := .quoted "a), \"b\" := $1;\n".toList "a), $\"b\"\" := $$1;$N".toList },
  { before := [' '], key := "Max Value".toList, value := .bare "[1, (2)]".toList },
  { before := ['\n'], key := "Radix".toList, beforeSign := [], afterSign := [], value := .bare [] }]

theorem parse_written_gauge : (∀ a ∈ gaugeAttributes, a.WellFormed) ∧ (gaugeAttributes.map (·.key)).Nodup ∧
    listText gaugeAttributes = "Description := \"a), $\"b\"\" := $$1;$N\", Max Value := [1, (2)],\nRadix:=".toList ∧
    parse (listText gaugeAttributes) =
      [("Description", "a), \"b\" := $1;\n"), ("Max Value", "[1, (2)]"), ("Radix", "")] := by
  have hbounds : Nested false "[1, (2)]".toList := by
    have htwo : Nested true ['2'] := .of_plain (by decide)
    have hparens : Nested true ('(' :: ['2'] ++ [')']) := .parens htwo .nil
    have hinner : Nested true ("1, ".toList ++ ('(' :: ['2'] ++ [')'])) :=
      .plain (by decide) (by decide) (.plain (by decide) (by decide) (.plain (by decide) (by decide) hparens))
    exact .brackets hinner .nil
  have hwell : ∀ a ∈ gaugeAttributes, a.WellFormed := by
    simp only [gaugeAttributes, List.forall_mem_cons]
    refine ⟨⟨by decide, by decide +kernel, by decide, by decide, ?_, by decide⟩,
      ⟨by decide, by decide +kernel, by decide, by decide, ?_, by decide⟩,
      ⟨by decide, by decide +kernel, by decide, by decide, ?_, by decide⟩, fun _ h => absurd h List.not_mem_nil⟩
    · exact (by decide +kernel : Spells "a), $\"b\"\" := $$1;$N".toList "a), \"b\" := $1;\n".toList)
    · exact ⟨by decide, hbounds, by decide⟩
    · exact ⟨by decide, .nil, by decide⟩
  have hkeys : (gaugeAttributes.map (·.key)).Nodup := by decide +kernel
  exact ⟨hwell, hkeys, by decide +kernel, (parse_written gaugeAttributes hwell hkeys).trans (by decide +kernel)⟩

end Attributes

end LadderAtlas.L5k
