import LadderAtlas.Proofs.L5x.Clashes
import LadderAtlas.Value.Lookup
import Mathlib.Data.List.Forall2

/-! # What is kept of a subtree

The value that stands for an element holds its attributes, its text and the values that stand for its children
(`Stores`). Three kinds of entries share one set of names: where a child has the name of another entry the
element is not stored (`Clashes`), and a text takes the place of an attribute that is called as texts are
(`Overwrites`). Otherwise all of the element is stored, however deep it is: `subtree_stored_iff`. -/

namespace LadderAtlas.L5x
open Xml
open Scalar (text_beq_text same_text)

/-- `v` holds everything about an element: under its name each attribute, under `#text` the text, under the tag
of each child the children with that tag in document order; and nothing else. -/
inductive Stores : Element → Value → Prop
  | map {e : Element} {entries : List (Scalar × Value)} (lists : String → List Value)
      (attributes : ∀ name value, e.attribute? name = some value → Value.find? entries name = some (.text value))
      (text : ∀ t, Text.trimmed? e.text = some t → Value.find? entries "#text" = some (.text t))
      (child : ∀ c ∈ e.children, Value.find? entries c.tag = some (.list (lists c.tag)))
      (children : ∀ name, List.Forall₂ Stores (e.childrenNamed name) (lists name))
      (known : ∀ name, (Value.find? entries name).isSome → (e.attribute? name).isSome ∨
        name = "#text" ∧ (Text.trimmed? e.text).isSome ∨ ∃ c ∈ e.children, c.tag = name) :
      Stores e (.map entries)

/-- In an element or below it, an attribute is called as the text before the children is, and has another
value. -/
inductive Overwrites : Element → Prop
  | here {e : Element} {value t : String} (hattribute : e.attribute? "#text" = some value)
      (htext : Text.trimmed? e.text = some t) (hne : t ≠ value) : Overwrites e
  | inside {e c : Element} (hc : c ∈ e.children) (h : Overwrites c) : Overwrites e

/-! ### Entries by their names -/

theorem find?_cons (k : Scalar) (v : Value) (m : List (Scalar × Value)) (name : String) :
    Value.find? ((k, v) :: m) name = if k == .text name then some v else Value.find? m name := by
  simp only [Value.find?, List.find?_cons, same_text]
  cases k == .text name <;> rfl

/-- Another value in the first place is found under its name, and all else as before. -/
theorem find?_cons_text (key : String) (v w : Value) (m : List (Scalar × Value)) (name : String) :
    Value.find? ((.text key, w) :: m) name = if name = key then some w else Value.find? ((.text key, v) :: m) name := by
  rw [find?_cons, find?_cons, text_beq_text]
  by_cases hn : name = key
  · simp [hn]
  · simp [hn, Ne.symm hn]

/-- A change under another name behind the first entry is a change of the whole. -/
theorem find?_cons_of_ne {k : Scalar} {key name : String} {m m' : List (Scalar × Value)} {x : Option Value}
    (hk : ¬ (k == .text key) = true) (v : Value)
    (h : Value.find? m' name = if name = key then x else Value.find? m name) :
    Value.find? ((k, v) :: m') name = if name = key then x else Value.find? ((k, v) :: m) name := by
  rw [find?_cons, find?_cons, h]
  by_cases hn : (k == .text name) = true
  · have hne : name ≠ key := by
      rintro rfl
      exact hk hn
    simp [hn, hne]
  · simp [hn]

theorem find?_attributes (attributes : List (String × String)) (name : String) :
    Value.find? (attributes.map fun (k, v) => (Scalar.text k, Value.text v)) name =
      (attributes.lookup name).map .text := by
  induction attributes with
  | nil => rfl
  | cons p attributes ih =>
    obtain ⟨k, v⟩ := p
    rw [List.map_cons, find?_cons, ih, text_beq_text, List.lookup_cons, Bool.beq_comm (a := k)]
    cases name == k <;> rfl

theorem find?_setEntry (m : List (Scalar × Value)) (key : String) (v : Value) (name : String) :
    Value.find? (Value.setEntry m (.text key) v) name = if name = key then some v else Value.find? m name := by
  induction m with
  | nil =>
    rw [Value.setEntry, find?_cons, text_beq_text]
    by_cases h : name = key
    · simp [h]
    · simp [h, Ne.symm h]
  | cons p m ih =>
    obtain ⟨k, w⟩ := p
    rw [Value.setEntry, same_text]
    by_cases hk : (k == .text key) = true
    · obtain rfl := Scalar.eq_of_beq_text hk
      rw [if_pos hk]
      exact find?_cons_text key w v m name
    · rw [if_neg hk]
      exact find?_cons_of_ne hk w ih

/-- Under the name of texts stands the text, if there is one. -/
theorem find?_ownEntries (attributes : List (String × String)) (text name : String) :
    Value.find? (ownEntries attributes text) name =
      ((if name = "#text" then Text.trimmed? text else none).or (attributes.lookup name)).map .text := by
  unfold ownEntries
  cases Text.trimmed? text with
  | none => simp [find?_attributes]
  | some t =>
    rw [find?_setEntry, find?_attributes]
    by_cases h : name = "#text" <;> simp [h]

theorem itemsAt_map (m : List (Scalar × Value)) (name : String) :
    (Value.map m).itemsAt name = ((Value.find? m name).getD .null).items := rfl

theorem itemsAt_nil (name : String) : (Value.map []).itemsAt name = [] := rfl

theorem itemsAt_ownEntries (attributes : List (String × String)) (text name : String) :
    (Value.map (ownEntries attributes text)).itemsAt name = [] := by
  rw [itemsAt_map, find?_ownEntries]
  cases (if name = "#text" then Text.trimmed? text else none).or (attributes.lookup name) <;> rfl

/-- A child is put at the end of the list under its tag. -/
theorem find?_addChild {tag : String} {child : Value} {m m' : List (Scalar × Value)}
    (h : addChild tag child m = .ok m') (name : String) :
    Value.find? m' name =
      if name = tag then some (.list ((Value.map m).itemsAt tag ++ [child])) else Value.find? m name := by
  induction m generalizing m' with
  | nil =>
    obtain rfl := Except.ok.inj h
    rw [find?_cons, text_beq_text, itemsAt_nil, List.nil_append]
    by_cases hn : name = tag
    · simp [hn]
    · simp [hn, Ne.symm hn]
  | cons p m ih =>
    obtain ⟨k, v⟩ := p
    unfold addChild at h
    by_cases hk : (k == .text tag) = true
    · obtain rfl := Scalar.eq_of_beq_text hk
      rw [if_pos hk] at h
      cases v with
      | list l =>
        obtain rfl := Except.ok.inj h
        have hitems : (Value.map ((.text tag, .list l) :: m)).itemsAt tag = l := by
          rw [itemsAt_map, find?_cons, if_pos hk]
          rfl
        rw [hitems]
        exact find?_cons_text tag (.list l) _ m name
      | scalar s => cases h
      | map l => cases h
    · rw [if_neg hk] at h
      cases hm : addChild tag child m with
      | error f =>
        rw [hm] at h
        cases h
      | ok m₁ =>
        rw [hm] at h
        obtain rfl := Except.ok.inj h
        have hitems : (Value.map ((k, v) :: m)).itemsAt tag = (Value.map m).itemsAt tag := by
          rw [itemsAt_map, find?_cons, if_neg hk, ← itemsAt_map]
        rw [hitems]
        exact find?_cons_of_ne hk v (ih hm)

theorem withChildren_cons_eq_ok {m m' : List (Scalar × Value)} {c : Element} {l : List Element}
    (h : withChildren m (c :: l) = .ok m') :
    ∃ v m₁, subtree c = .ok v ∧ addChild c.tag v m = .ok m₁ ∧ withChildren m₁ l = .ok m' := by
  unfold withChildren at h
  cases hv : subtree c with
  | error f =>
    rw [hv] at h
    cases h
  | ok v =>
    cases hm : addChild c.tag v m with
    | error f =>
      rw [hv] at h
      simp only [hm] at h
      cases h
    | ok m₁ =>
      rw [hv] at h
      simp only [hm] at h
      exact ⟨v, m₁, rfl, hm, h⟩

theorem subtree_eq_ok {e : Element} {v : Value} (h : subtree e = .ok v) :
    ∃ m, withChildren (ownEntries e.attributes e.text) e.children = .ok m ∧ v = .map m := by
  obtain ⟨tag, attributes, text, children⟩ := e
  rw [subtree] at h
  cases hm : withChildren (ownEntries attributes text) children with
  | error f =>
    rw [hm] at h
    cases h
  | ok m =>
    rw [hm] at h
    exact ⟨m, rfl, (Except.ok.inj h).symm⟩

theorem clashes_of_attribute? {e c : Element} {value : String} (hc : c ∈ e.children)
    (h : e.attribute? c.tag = some value) : Clashes e := by
  obtain ⟨before, after, hattributes, -⟩ := List.lookup_eq_some_iff.1 h
  have hname : c.tag ∈ e.attributes.map (·.1) := by simp [hattributes]
  cases e
  exact .attribute hc hname

theorem clashes_of_text {e c : Element} {t : String} (hc : c ∈ e.children) (hname : c.tag = "#text")
    (ht : Text.trimmed? e.text = some t) : Clashes e := by
  cases e
  exact .text hc hname (Option.isSome_of_eq_some ht)

theorem not_clashes_of_subtree {e : Element} {v : Value} (h : subtree e = .ok v) : ¬ Clashes e := by
  intro hclash
  obtain ⟨f, hf⟩ := (subtree_eq_error_iff e).2 hclash
  rw [h] at hf
  cases hf

/-! ### What is stored -/

/-- The lists under the tags of some children are what stands for them, behind what was there before. -/
structure AddsChildren (l : List Element) (m m' : List (Scalar × Value)) (lists : String → List Value) : Prop where
  stored : ∀ name, List.Forall₂ Stores (l.filter (·.tag = name)) (lists name)
  entry : ∀ name, Value.find? m' name =
    if lists name = [] then Value.find? m name else some (.list ((Value.map m).itemsAt name ++ lists name))

theorem AddsChildren.nil (m : List (Scalar × Value)) : AddsChildren [] m m fun _ => [] :=
  ⟨fun _ => .nil, fun _ => rfl⟩

theorem AddsChildren.cons {l : List Element} {m m₁ m' : List (Scalar × Value)} {lists : String → List Value}
    {c : Element} {v : Value} (hv : Stores c v) (hm : addChild c.tag v m = .ok m₁)
    (h : AddsChildren l m₁ m' lists) :
    AddsChildren (c :: l) m m' fun name => if c.tag = name then v :: lists name else lists name where
  stored name := by
    by_cases hn : c.tag = name
    · simpa [hn] using ⟨hv, h.stored name⟩
    · simpa [hn] using h.stored name
  entry name := by
    rw [h.entry, itemsAt_map, find?_addChild hm]
    by_cases hn : c.tag = name
    · subst hn
      by_cases hl : lists c.tag = [] <;> simp [hl, Value.items]
    · rw [if_neg (Ne.symm hn), if_neg hn, ← itemsAt_map]

theorem AddsChildren.eq_nil_iff {l : List Element} {m m' : List (Scalar × Value)} {lists : String → List Value}
    (h : AddsChildren l m m' lists) (name : String) : lists name = [] ↔ ∀ c ∈ l, c.tag ≠ name := by
  rw [← List.length_eq_zero_iff, ← (h.stored name).length_eq, List.length_eq_zero_iff, List.filter_eq_nil_iff]
  simp

/-- The children behind an element's own entries make the element stored, if no names clash. -/
theorem stores_of_addsChildren {e : Element} {m : List (Scalar × Value)} {lists : String → List Value}
    (h : AddsChildren e.children (ownEntries e.attributes e.text) m lists) (hclash : ¬ Clashes e)
    (hkept : ¬ Overwrites e) : Stores e (.map m) := by
  have hown : ∀ name, (∀ c ∈ e.children, c.tag ≠ name) →
      Value.find? m name =
        ((if name = "#text" then Text.trimmed? e.text else none).or (e.attribute? name)).map .text := by
    intro name hname
    rw [h.entry, if_pos ((h.eq_nil_iff name).2 hname), find?_ownEntries]
    rfl
  have hlist : ∀ c ∈ e.children, Value.find? m c.tag = some (.list (lists c.tag)) := by
    intro c hc
    have hne : lists c.tag ≠ [] := fun hnil => (h.eq_nil_iff c.tag).1 hnil c hc rfl
    rw [h.entry, if_neg hne, itemsAt_ownEntries, List.nil_append]
  refine .map lists (fun name value hvalue => ?_) (fun t ht => ?_) hlist h.stored fun name hname => ?_
  · have hchild : ∀ c ∈ e.children, c.tag ≠ name := by
      rintro c hc rfl
      exact hclash (clashes_of_attribute? hc hvalue)
    rw [hown name hchild, hvalue]
    by_cases hn : name = "#text"
    · subst hn
      cases ht : Text.trimmed? e.text with
      | none => simp
      | some t =>
        have htvalue : t = value := Decidable.not_not.1 fun hne => hkept (.here hvalue ht hne)
        simp [htvalue]
    · simp [hn]
  · have hchild : ∀ c ∈ e.children, c.tag ≠ "#text" := fun c hc hn => hclash (clashes_of_text hc hn ht)
    rw [hown _ hchild, ht]
    simp
  · by_cases hchild : ∃ c ∈ e.children, c.tag = name
    · exact .inr (.inr hchild)
    · rw [hown name (by simpa using hchild)] at hname
      by_cases hn : name = "#text"
      · cases ht : Text.trimmed? e.text with
        | none => exact .inl (by simpa [ht] using hname)
        | some t => exact .inr (.inl ⟨hn, rfl⟩)
      · exact .inl (by simpa [hn] using hname)

mutual
theorem stores_subtree : (e : Element) → ∀ v, subtree e = .ok v → ¬ Overwrites e → Stores e v
  | ⟨tag, attributes, text, children⟩ => by
    intro v hv hkept
    obtain ⟨m, hm, rfl⟩ := subtree_eq_ok hv
    obtain ⟨lists, hlists⟩ := addsChildren_withChildren children _ _ hm fun c hc h => hkept (.inside hc h)
    exact stores_of_addsChildren hlists (not_clashes_of_subtree hv) hkept

theorem addsChildren_withChildren : (l : List Element) → ∀ m m', withChildren m l = .ok m' →
    (∀ c ∈ l, ¬ Overwrites c) → ∃ lists, AddsChildren l m m' lists
  | [] => by
    intro m m' h _
    rw [withChildren] at h
    obtain rfl := Except.ok.inj h
    exact ⟨_, .nil m⟩
  | c :: l => by
    intro m m' h hkept
    obtain ⟨v, m₁, hv, hm₁, hm'⟩ := withChildren_cons_eq_ok h
    have hstored := stores_subtree c v hv (hkept c (List.mem_cons_self ..))
    obtain ⟨lists, hlists⟩ :=
      addsChildren_withChildren l m₁ m' hm' fun c' hc' => hkept c' (List.mem_cons_of_mem _ hc')
    exact ⟨_, hlists.cons hstored hm₁⟩
end

/-- An attribute that a text has overwritten is not stored. -/
theorem Overwrites.not_stores {e : Element} (h : Overwrites e) : ∀ v, ¬ Stores e v := by
  induction h with
  | here hattribute htext hne =>
    rintro - ⟨lists, hattributes, htexts, -, -, -⟩
    have heq := (htexts _ htext).symm.trans (hattributes _ _ hattribute)
    exact hne (by simpa [Value.text] using heq)
  | @inside e c hc _ ih =>
    rintro - ⟨lists, -, -, -, hchildren, -⟩
    have hmem : c ∈ e.childrenNamed c.tag := List.mem_filter.2 ⟨hc, by simp⟩
    obtain ⟨i, hi, hci⟩ := List.getElem_of_mem hmem
    have hv := (hchildren c.tag).get hi ((hchildren c.tag).length_eq ▸ hi)
    rw [List.get_eq_getElem, hci] at hv
    exact ih _ hv

/-- An element is stored without loss unless names clash or an attribute is overwritten, in it or below it. -/
theorem subtree_stored_iff (e : Element) :
    (∃ v, subtree e = .ok v ∧ Stores e v) ↔ ¬ Clashes e ∧ ¬ Overwrites e := by
  constructor
  · rintro ⟨v, hv, hstored⟩
    exact ⟨not_clashes_of_subtree hv, fun h => h.not_stores v hstored⟩
  · rintro ⟨hclash, hkept⟩
    cases hv : subtree e with
    | error f => exact absurd ((subtree_eq_error_iff e).1 ⟨f, hv⟩) hclash
    | ok v => exact ⟨v, rfl, stores_subtree e v hv hkept⟩

/-- An element with an attribute and a child of one name. -/
def ratedElement : Element where
  tag := "Communications"
  attributes := [("Rate", "1")]
  children := [{ tag := "Rate" }]

/-- It is not stored at all. -/
theorem subtree_ratedElement : ¬ ∃ v, subtree ratedElement = .ok v := by
  rintro ⟨v, hv⟩
  exact not_clashes_of_subtree hv (.attribute (List.mem_singleton_self _) (by decide))

end LadderAtlas.L5x
