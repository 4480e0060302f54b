import LadderAtlas.Proofs.L5k.WrittenAttributes

/-!
# Written declarations

A declaration is written as `name : type[bounds] (attributes) := value`, an alias as `name OF target (attributes)`.
After its colon a declaration is told apart by the first parenthesis and the first sign of assignment, of which the
first one counts (`typed_of_group`, `typed_of_value`, `typed_of_plain`): the sign is looked for in quoted attributes
and in the value too, but the type with its bounds has none, so it is found where it was written or further on. Hence
declarations are read back whatever their attributes and values hold: `Declaration.parse?_written`. A bound with a
sign of assignment would come first: `Declaration.parse?_boundWithSign`.
-/

namespace LadderAtlas.L5k
open Text
open Ladder (IsBlankText)

/-! ### Types with bounds -/

section
variable {type : List Char} (htype : IsRun type) (h : '[' ∉ type)
include htype h

theorem span_type {s : List Char} (hs : ∀ x t, s = x :: t → x = '[') :
    (type ++ s).span (fun c => c ≠ '[' && !isBlank c) = (type, s) := by
  refine span_append (fun c hc => ?_) fun x t he => ?_
  · have hne : c ≠ '[' := fun he => h (he ▸ hc)
    simp [hne, htype.solid c hc]
  · simp [hs x t he]

theorem arrayType?_of_run : arrayType? type = none := by
  have hspan := span_type htype h (s := []) (by simp)
  rw [List.append_nil] at hspan
  obtain ⟨c, s, rfl⟩ := List.exists_cons_of_ne_nil htype.ne_nil
  rw [arrayType?, hspan]
  rfl

theorem arrayType?_bounds {dims : List Char} (hdims : dims ≠ []) (hclose : ']' ∉ dims) :
    arrayType? (type ++ '[' :: (dims ++ [']'])) = some (type, dims) := by
  have hspan : (type ++ '[' :: (dims ++ [']'])).span (fun c => c ≠ '[' && !isBlank c) =
      (type, '[' :: (dims ++ [']'])) :=
    span_type htype h fun _ _ he => (List.cons.inj he).1.symm
  have hrest : (dims ++ [']']).span (· ≠ ']') = (dims, [']']) := by
    refine span_append (fun c hc => ?_) fun x t he => ?_
    · exact decide_eq_true fun he => hclose (he ▸ hc)
    · rw [← (List.cons.inj he).1]
      rfl
  have htrim : trimLeft ('[' :: (dims ++ [']'])) = '[' :: (dims ++ [']']) := rfl
  obtain ⟨c, s, rfl⟩ := List.exists_cons_of_ne_nil htype.ne_nil
  obtain ⟨d, ds, rfl⟩ := List.exists_cons_of_ne_nil hdims
  rw [arrayType?, hspan]
  simp only [htrim, hrest]

end

/-! ### Type, attributes and value -/

namespace Declaration

/-- A group before any sign of assignment holds the attributes. -/
theorem typed_of_group {before inside : List Char} (hbefore : Avoids ['"', '('] before)
    (hunassigned : Unassigned before) (hinside : Nested true inside) (after : List Char) :
    typed (before ++ '(' :: (inside ++ ')' :: after)) =
      { type := trim before, attributes := Attributes.parse inside, value := typed.valueAfter after } := by
  rw [typed, firstGroup_nested hbefore hinside, hunassigned.splitAssign_append_cons (by decide)]
  cases hassign : splitAssign ('(' :: (inside ++ ')' :: after)) with
  | none => rfl
  | some p =>
    have hkey : p.1 ≠ [] := by
      rw [Unassigned.splitAssign_cons (by simp)] at hassign
      obtain ⟨q, -, rfl⟩ := Option.map_eq_some_iff.1 hassign
      simp
    have hlength : before.length < (before ++ p.1).length := by
      rw [List.length_append]
      have := List.length_pos_iff.2 hkey
      omega
    simp only [Option.map_some, if_pos hlength]

/-- A sign of assignment before any group begins the value. -/
theorem typed_of_value {before : List Char} (hbefore : '(' ∉ before) (hunassigned : Unassigned before) (v : List Char) :
    typed (before ++ ':' :: '=' :: v) = { type := trim before, value := filled? v } := by
  rw [typed, hunassigned.splitAssign_append]
  cases hg : firstGroup (before ++ ':' :: '=' :: v) with
  | none => rfl
  | some g =>
    have hlength : ¬ g.before.length < before.length := by
      intro hlt
      obtain ⟨r, hr⟩ := firstGroup_before hg
      rcases List.append_eq_append_iff.1 hr with ⟨u, hu, -⟩ | ⟨u, hu, hrest⟩
      · rw [hu, List.length_append] at hlt
        omega
      · cases u with
        | nil => exact absurd (List.cons.inj hrest).1 (by decide)
        | cons x u =>
          obtain ⟨rfl, -⟩ := List.cons.inj hrest
          exact hbefore (by simp [hu])
    simp only [if_neg hlength]

theorem typed_of_plain {s : List Char} (hs : '(' ∉ s) (hunassigned : Unassigned s) : typed s = { type := trim s } := by
  rw [typed, firstGroup_eq_none hs, hunassigned.splitAssign_eq_none]

end Declaration

/-! ### Declarations as they are written -/

def boundsText : List (List Char) → List Char
  | [] => []
  | bounds => '[' :: (joined [','] bounds ++ [']'])

theorem boundsText_of_ne {bounds : List (List Char)} (h : bounds ≠ []) :
    boundsText bounds = '[' :: (joined [','] bounds ++ [']']) := by
  cases bounds with
  | nil => exact absurd rfl h
  | cons => rfl

theorem mem_boundsText {bounds : List (List Char)} {c : Char} (h : c ∈ boundsText bounds) :
    c ∈ ['[', ',', ']'] ∨ ∃ b ∈ bounds, c ∈ b := by
  by_cases hnil : bounds = []
  · rw [hnil] at h
    exact absurd h List.not_mem_nil
  · rw [boundsText_of_ne hnil, List.mem_cons, List.mem_append, List.mem_singleton] at h
    rcases h with rfl | hc | rfl
    · exact .inl (by decide)
    · exact (mem_joined hc).imp_left fun hm => by simp [List.mem_singleton.1 hm]
    · exact .inl (by decide)

def groupText : Option (List WrittenAttribute) → List Char
  | none => []
  | some l => ' ' :: '(' :: (listText l ++ [')'])

def valueText : Option (List Char) → List Char
  | none => []
  | some v => ' ' :: ':' :: '=' :: ' ' :: v

theorem filled?_blank {v : List Char} (hv : IsTrimmed v) : filled? (' ' :: v) = some (String.ofList v) :=
  filled?_of_trim ((trim_blank_append (b := [' ']) (by decide) v).trans hv.trim_eq) hv.ne_nil

/-- A declaration `name : type[bounds] (attributes) := value`. -/
structure WrittenDeclaration where
  name : List Char
  type : List Char
  bounds : List (List Char) := []
  attributes : Option (List WrittenAttribute) := none
  value : Option (List Char) := none

namespace WrittenDeclaration

/-- The type with its bounds. -/
def shape (d : WrittenDeclaration) : List Char := d.type ++ boundsText d.bounds

def text (d : WrittenDeclaration) : List Char :=
  d.name ++ [' ', ':', ' '] ++ (d.shape ++ groupText d.attributes ++ valueText d.value)

/-- The declaration that is written; without bounds an attribute may give the dimensions. -/
def declaration (d : WrittenDeclaration) : Declaration :=
  let a := attributesOf (d.attributes.getD [])
  { name := String.ofList d.name
    dataType := String.ofList d.type
    attributes := a
    dimensions := if d.bounds = [] then a.get? "Dimension" else some (String.ofList (joined [' '] d.bounds))
    value := d.value.map String.ofList
    aliasFor := a.get? "AliasFor" }

structure WellFormed (d : WrittenDeclaration) : Prop where
  name : IsRun d.name
  name_plain : Avoids ['"', ':'] d.name
  type : IsRun d.type
  type_plain : Avoids groupMarks d.type
  type_unassigned : Unassigned d.type
  bounds_trimmed : ∀ b ∈ d.bounds, trim b = b
  bounds_plain : ∀ b ∈ d.bounds, Avoids (',' :: groupMarks) b
  bounds_ne : d.bounds ≠ [[]]
  attributes : ∀ l ∈ d.attributes, ∀ a ∈ l, a.WellFormed
  value : ∀ v ∈ d.value, IsTrimmed v

namespace WellFormed
variable {d : WrittenDeclaration}

theorem shape_plain (h : d.WellFormed) : Avoids ['"', '('] d.shape := by
  have hown : Avoids ['"', '('] ['[', ',', ']'] := by decide
  refine (h.type_plain.mono (by simp [groupMarks])).append fun c hc => ?_
  rcases mem_boundsText hc with hc | ⟨b, hb, hc⟩
  · exact hown c hc
  · exact (h.bounds_plain b hb).mono (by simp [groupMarks]) c hc

theorem shape_unassigned (h : d.WellFormed) (hbounds : ∀ b ∈ d.bounds, Unassigned b) :
    Unassigned d.shape := by
  rw [shape]
  by_cases hnil : d.bounds = []
  · rw [hnil, boundsText, List.append_nil]
    exact h.type_unassigned
  · rw [boundsText_of_ne hnil, Unassigned.append_cons_iff (by decide), Unassigned.append_cons_iff (by decide)]
    exact ⟨h.type_unassigned, .joined (by decide) hbounds, .nil⟩

theorem shape_trimmed (h : d.WellFormed) : IsTrimmed d.shape := by
  rw [shape]
  have htype : IsTrimmed d.type := ⟨h.type.ne_nil, h.type.trim_eq⟩
  by_cases hnil : d.bounds = []
  · rwa [hnil, boundsText, List.append_nil]
  · have hclose : IsTrimmed (d.type ++ '[' :: joined [','] d.bounds ++ [']']) := htype.append (.of_solid (by decide)) _
    rwa [List.append_assoc, List.cons_append, ← boundsText_of_ne hnil] at hclose

/-- The type and the dimensions come apart again. -/
theorem arrayType?_shape (h : d.WellFormed) : arrayType? d.shape =
    if d.bounds = [] then none else some (d.type, joined [','] d.bounds) := by
  rw [shape]
  have htype : '[' ∉ d.type := fun hm => h.type_plain _ hm (by decide)
  split
  · rename_i hnil
    rw [hnil, boundsText, List.append_nil]
    exact arrayType?_of_run h.type htype
  · rename_i hnil
    have hclose : ']' ∉ joined [','] d.bounds := by
      intro hm
      rcases mem_joined hm with hm | ⟨b, hb, hm⟩
      · exact absurd hm (by decide)
      · exact h.bounds_plain b hb _ hm (by decide)
    rw [boundsText_of_ne hnil]
    exact arrayType?_bounds h.type htype (joined_ne_nil hnil h.bounds_ne) hclose

theorem map_commaParts (h : d.WellFormed) (hnil : d.bounds ≠ []) :
    (commaParts (joined [','] d.bounds)).map trim = d.bounds := by
  have hcomma : ∀ b ∈ d.bounds, ',' ∉ b := fun b hb hm => h.bounds_plain b hb _ hm (by decide)
  rw [commaParts, splitOn_joined hnil hcomma]
  exact (List.map_congr_left (g := id) h.bounds_trimmed).trans (List.map_id _)

theorem valueAfter_valueText (h : d.WellFormed) :
    Declaration.typed.valueAfter (valueText d.value) = d.value.map String.ofList := by
  cases hv : d.value with
  | none => rfl
  | some v =>
    have hvalue := h.value v hv
    have hcolon : IsTrimmed [':'] := .of_solid (by decide)
    have hsign : trim (valueText (some v)) = ':' :: '=' :: ' ' :: v :=
      (trim_blank_append (b := [' ']) (by decide) _).trans (hcolon.append hvalue ['=', ' ']).trim_eq
    rw [Declaration.typed.valueAfter, hsign]
    exact filled?_blank hvalue

/-- Behind its colon a declaration is told apart as it was written. -/
theorem typed_text (h : d.WellFormed) (hbounds : ∀ b ∈ d.bounds, Unassigned b) :
    Declaration.typed (d.shape ++ groupText d.attributes ++ valueText d.value) =
      { type := d.shape
        attributes := attributesOf (d.attributes.getD [])
        value := d.value.map String.ofList } := by
  have hplain := h.shape_plain
  have hunassigned := h.shape_unassigned hbounds
  have htrimmed := h.shape_trimmed
  have hattributes := h.attributes
  have hafter := h.valueAfter_valueText
  generalize d.shape = shape at hplain hunassigned htrimmed ⊢
  have hplain' : Avoids ['"', '('] (shape ++ [' ']) := hplain.append (by decide)
  have hunassigned' : Unassigned (shape ++ [' ']) := (Unassigned.append_cons_iff (by decide)).2 ⟨hunassigned, .nil⟩
  have htrim : trim (shape ++ [' ']) = shape := (trim_append_blank (by decide) shape).trans htrimmed.trim_eq
  cases hl : d.attributes with
  | some l =>
    have hl := hattributes l hl
    have htext : shape ++ groupText (some l) ++ valueText d.value =
        (shape ++ [' ']) ++ '(' :: (listText l ++ ')' :: valueText d.value) := by simp [groupText]
    rw [htext, Declaration.typed_of_group hplain' hunassigned' (nested_listText hl), htrim, hafter,
      Attributes.parse_listText hl]
    rfl
  | none =>
    have hnone : groupText none = [] := rfl
    rw [hnone, List.append_nil]
    cases hv : d.value with
    | none =>
      have hparen : '(' ∉ shape := fun hm => hplain _ hm (by decide)
      rw [valueText, List.append_nil, Declaration.typed_of_plain hparen hunassigned, htrimmed.trim_eq]
      rfl
    | some v =>
      have hparen : '(' ∉ shape ++ [' '] := fun hm => hplain' _ hm (by decide)
      have hvalue := h.value v hv
      have htext : shape ++ valueText (some v) = (shape ++ [' ']) ++ ':' :: '=' :: ' ' :: v := by simp [valueText]
      rw [htext, Declaration.typed_of_value hparen hunassigned', htrim, filled?_blank hvalue]
      rfl

theorem typed_trimmed (h : d.WellFormed) :
    IsTrimmed (d.shape ++ groupText d.attributes ++ valueText d.value) := by
  have hgroup : IsTrimmed (d.shape ++ groupText d.attributes) := by
    cases d.attributes with
    | none =>
      rw [groupText, List.append_nil]
      exact h.shape_trimmed
    | some l =>
      have hclose := h.shape_trimmed.append (.of_solid (c := ')') (by decide)) (' ' :: '(' :: listText l)
      rwa [List.append_assoc _ _ [')']] at hclose
  cases hv : d.value with
  | none => rwa [valueText, List.append_nil]
  | some v =>
    have hvalue := hgroup.append (h.value v hv) [' ', ':', '=', ' ']
    rwa [List.append_assoc _ _ v] at hvalue

theorem parse?_text (h : d.WellFormed) (hbounds : ∀ b ∈ d.bounds, Unassigned b) :
    Declaration.parse? d.text = some d.declaration := by
  have hname : trim (d.name ++ [' ']) = d.name := (trim_append_blank (by decide) d.name).trans h.name.trim_eq
  have hplain : Avoids ['"', ':'] (d.name ++ [' ']) := h.name_plain.append (by decide)
  have htyped := h.typed_text hbounds
  have htrimmed := h.typed_trimmed
  have htext : d.text =
      d.name ++ ([' '] ++ ':' :: ([' '] ++ (d.shape ++ groupText d.attributes ++ valueText d.value))) := by
    simp [text]
  generalize d.shape ++ groupText d.attributes ++ valueText d.value = rest at htyped htrimmed htext
  have htrim : trim ([' '] ++ rest) = rest := (trim_blank_append (by decide) rest).trans htrimmed.trim_eq
  rw [htext, Declaration.parse?, Declaration.alias?_of_colon h.name (by decide), Option.none_or, ← List.append_assoc,
    Declaration.typed?, Declaration.splitColon_shade hplain (by simp)]
  simp only [filled?_of_trim hname h.name.ne_nil, htrim, htyped, h.arrayType?_shape]
  have htype : ¬ d.type.isEmpty = true := mt List.isEmpty_iff.1 h.type.ne_nil
  by_cases hnil : d.bounds = []
  · have hshape : d.shape = d.type := by rw [shape, hnil, boundsText, List.append_nil]
    simp only [hnil, hshape, if_true, declaration, if_neg htype]
    rfl
  · have hdims : ¬ (String.ofList (joined [' '] d.bounds)).isEmpty = true := by
      rw [String.isEmpty_iff, String.ofList_eq_empty_iff]
      exact joined_ne_nil hnil h.bounds_ne
    simp only [hnil, if_false, declaration, h.map_commaParts hnil, if_neg htype, if_neg hdims]

end WellFormed

end WrittenDeclaration

/-- A declaration `name OF target (attributes)`. -/
structure WrittenAlias where
  name : List Char
  target : List Char
  attributes : Option (List WrittenAttribute) := none

namespace WrittenAlias

def text (d : WrittenAlias) : List Char := d.name ++ [' ', 'O', 'F', ' '] ++ d.target ++ groupText d.attributes

def declaration (d : WrittenAlias) : Declaration where
  name := String.ofList d.name
  attributes := attributesOf (d.attributes.getD [])
  aliasFor := some (String.ofList d.target)

structure WellFormed (d : WrittenAlias) : Prop where
  name : IsRun d.name
  target : IsRun d.target
  target_plain : '(' ∉ d.target
  attributes : ∀ l ∈ d.attributes, ∀ a ∈ l, a.WellFormed

theorem WellFormed.parse?_text {d : WrittenAlias} (h : d.WellFormed) :
    Declaration.parse? d.text = some d.declaration := by
  have htext : d.text = d.name ++ ([' '] ++ 'O' :: 'F' :: ([' '] ++ (d.target ++ groupText d.attributes))) := by
    simp [text]
  have hof : ([' '] ++ 'O' :: 'F' :: ([' '] ++ (d.target ++ groupText d.attributes))).span isBlank =
      ([' '], 'O' :: 'F' :: ([' '] ++ (d.target ++ groupText d.attributes))) := rfl
  have hgap : ([' '] ++ (d.target ++ groupText d.attributes)).span isBlank =
      ([' '], d.target ++ groupText d.attributes) := by
    obtain ⟨c, s, hcons⟩ := List.exists_cons_of_ne_nil h.target.ne_nil
    refine span_append (by decide : IsBlankText [' ']) fun x t he => ?_
    rw [hcons] at he
    obtain ⟨rfl, -⟩ := List.cons.inj he
    exact h.target.solid c (by simp [hcons])
  have htarget : (d.target ++ groupText d.attributes).span (fun c => !isBlank c && c ≠ '(') =
      (d.target, groupText d.attributes) := by
    refine span_append (fun c hc => ?_) fun x t he => ?_
    · have hne : c ≠ '(' := fun he => h.target_plain (he ▸ hc)
      simp [hne, h.target.solid c hc]
    · cases hl : d.attributes with
      | none =>
        rw [hl] at he
        cases he
      | some l =>
        rw [hl] at he
        rw [← (List.cons.inj he).1]
        rfl
  rw [Declaration.parse?, htext, Declaration.alias?_eq (span_run h.name (by decide)) hof hgap htarget h.name.ne_nil
    (by simp) (by simp) h.target.ne_nil, Option.some_or, declaration]
  have hattributes := h.attributes
  cases hl : d.attributes with
  | none => rfl
  | some l =>
    have hl := hattributes l hl
    have hgroup : firstGroup (trimLeft (groupText (some l))) = some ⟨[], listText l, []⟩ :=
      firstGroup_nested (fun _ hc => absurd hc List.not_mem_nil) (nested_listText hl) []
    simp only [hgroup, Option.elim_some, Attributes.parse_listText hl, Option.getD_some]

end WrittenAlias

namespace Declaration

/-- Declarations and aliases are read as they were written, if no bound holds a sign of assignment. -/
theorem parse?_written :
    (∀ d : WrittenDeclaration, d.WellFormed → (∀ b ∈ d.bounds, Unassigned b) → parse? d.text = some d.declaration) ∧
    ∀ d : WrittenAlias, d.WellFormed → parse? d.text = some d.declaration :=
  ⟨fun _ h hbounds => h.parse?_text hbounds, fun _ h => h.parse?_text⟩

def flowAttributes : List WrittenAttribute := [
  { key := "Description".toList, value := .quoted "a (b) := \"c\"".toList "a (b) := \"\"c\"\"".toList },
  { before := [' '], key := "Radix".toList, value := .bare "Decimal".toList }]

/-- Signs of assignment and parentheses in the attributes and in the value. -/
def flowDeclaration : WrittenDeclaration where
  name := "Flow".toList
  type := "AB:REAL".toList
  bounds := ["2".toList, "0..3".toList]
  attributes := some flowAttributes
  value := some "f(1) := [a:b]".toList

def flowAlias : WrittenAlias where
  name := "Copy:1".toList
  target := "Flow[1,2]".toList
  attributes := some flowAttributes

theorem parse?_written_flow : flowDeclaration.WellFormed ∧ (∀ b ∈ flowDeclaration.bounds, Unassigned b) ∧
    flowAlias.WellFormed ∧
    flowDeclaration.text =
      "Flow : AB:REAL[2,0..3] (Description := \"a (b) := \"\"c\"\"\", Radix := Decimal) := f(1) := [a:b]".toList ∧
    parse? flowDeclaration.text = some {
      name := "Flow"
      dataType := "AB:REAL"
      attributes := [("Description", "a (b) := \"c\""), ("Radix", "Decimal")]
      dimensions := some "2 0..3"
      value := some "f(1) := [a:b]" } ∧
    parse? flowAlias.text = some {
      name := "Copy:1"
      attributes := [("Description", "a (b) := \"c\""), ("Radix", "Decimal")]
      aliasFor := some "Flow[1,2]" } := by
  have hattributes : ∀ a ∈ flowAttributes, a.WellFormed := by
    simp only [flowAttributes, List.forall_mem_cons]
    refine ⟨⟨by decide, by decide +kernel, by decide, by decide, ?_, by decide⟩,
      ⟨by decide, by decide +kernel, by decide, by decide, ?_, by decide⟩, fun _ h => absurd h List.not_mem_nil⟩
    · exact (by decide +kernel : Spells "a (b) := \"\"c\"\"".toList "a (b) := \"c\"".toList)
    · exact ⟨by decide, .of_plain (by decide), by decide⟩
  have hlist : ∀ l ∈ some flowAttributes, ∀ a ∈ l, a.WellFormed := by
    rintro l ⟨⟩
    exact hattributes
  have hvalue : ∀ v ∈ flowDeclaration.value, IsTrimmed v := by
    rintro v ⟨⟩
    decide +kernel
  have hwell : flowDeclaration.WellFormed :=
    ⟨by decide +kernel, by decide +kernel, by decide +kernel, by decide +kernel, by decide +kernel, by decide +kernel,
      by decide +kernel, by decide +kernel, hlist, hvalue⟩
  have hbounds : ∀ b ∈ flowDeclaration.bounds, Unassigned b := by decide +kernel
  have halias : flowAlias.WellFormed := ⟨by decide +kernel, by decide +kernel, by decide +kernel, hlist⟩
  exact ⟨hwell, hbounds, halias, by decide +kernel,
    (parse?_written.1 flowDeclaration hwell hbounds).trans (by decide +kernel),
    (parse?_written.2 flowAlias halias).trans (by decide +kernel)⟩

/-- A bound with a sign of assignment. -/
def signedDeclaration : WrittenDeclaration where
  name := "A".toList
  type := "DINT".toList
  bounds := ["1:=2".toList]

/-- The first sign of assignment ends the type, even between brackets. -/
theorem parse?_boundWithSign : signedDeclaration.WellFormed ∧ signedDeclaration.text = "A : DINT[1:=2]".toList ∧
    parse? signedDeclaration.text = some { name := "A", dataType := "DINT[1", attributes := [], value := some "2]" } ∧
    parse? signedDeclaration.text ≠ some signedDeclaration.declaration :=
  ⟨⟨by decide +kernel, by decide +kernel, by decide +kernel, by decide +kernel, by decide +kernel, by decide +kernel,
      by decide +kernel, by decide +kernel, by simp [signedDeclaration], by simp [signedDeclaration]⟩,
    by decide +kernel, by decide +kernel, by decide +kernel⟩

end Declaration

end LadderAtlas.L5k
