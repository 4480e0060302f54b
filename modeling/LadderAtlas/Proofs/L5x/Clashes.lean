import LadderAtlas.L5x.Subtree

/-! # Clashing names

A stored subtree cannot keep an attribute and a child of one name (`Clashes`), and nothing else keeps an
element from being stored: `subtree_eq_error_iff`. -/

namespace LadderAtlas.L5x
open Xml
open Scalar (text_beq_text eq_of_beq_text same_text)

/-- In an element or below it, a child is named as an attribute, or as the text that stands before it. -/
inductive Clashes : Element → Prop
  | attribute {tag text : String} {attributes : List (String × String)} {children : List Element} {c : Element}
      (hc : c ∈ children) (hname : c.tag ∈ attributes.map (·.1)) : Clashes ⟨tag, attributes, text, children⟩
  | text {tag text : String} {attributes : List (String × String)} {children : List Element} {c : Element}
      (hc : c ∈ children) (hname : c.tag = "#text") (htext : (Text.trimmed? text).isSome) :
      Clashes ⟨tag, attributes, text, children⟩
  | inside {tag text : String} {attributes : List (String × String)} {children : List Element} {c : Element}
      (hc : c ∈ children) (h : Clashes c) : Clashes ⟨tag, attributes, text, children⟩

/-- The entry of a name holds something else than children. -/
def Occupied (name : String) : List (Scalar × Value) → Prop
  | [] => False
  | (k, v) :: m => if k == .text name then ∀ l, v ≠ .list l else Occupied name m

/-! ### Own entries -/

theorem occupied_attributes (name : String) (attributes : List (String × String)) :
    Occupied name (attributes.map fun (k, v) => (Scalar.text k, Value.text v)) ↔ name ∈ attributes.map (·.1) := by
  induction attributes with
  | nil => simp [Occupied]
  | cons p attributes ih =>
    obtain ⟨k, v⟩ := p
    simp only [List.map_cons, Occupied, text_beq_text, beq_iff_eq, List.mem_cons, ih]
    by_cases h : k = name
    · simp [h, Value.text]
    · simp [h, Ne.symm h]

theorem occupied_setEntry (name key text : String) (m : List (Scalar × Value)) :
    Occupied name (Value.setEntry m (.text key) (.text text)) ↔ name = key ∨ Occupied name m := by
  induction m with
  | nil =>
    by_cases h : key = name
    · simp [Value.setEntry, Occupied, text_beq_text, h, Value.text]
    · simp [Value.setEntry, Occupied, text_beq_text, h, Ne.symm h]
  | cons p m ih =>
    obtain ⟨k, v⟩ := p
    simp only [Value.setEntry, same_text]
    by_cases hk : (k == .text key) = true
    · obtain rfl := eq_of_beq_text hk
      rw [if_pos hk]
      by_cases h : key = name
      · simp [Occupied, text_beq_text, h, Value.text]
      · simp [Occupied, text_beq_text, h, Ne.symm h]
    · rw [if_neg hk]
      simp only [Occupied, ih]
      by_cases hn : (k == .text name) = true
      · have hne : name ≠ key := by
          rintro rfl
          exact hk hn
        simp [hn, hne]
      · simp [hn]

theorem occupied_ownEntries (name : String) (attributes : List (String × String)) (text : String) :
    Occupied name (ownEntries attributes text) ↔
      name ∈ attributes.map (·.1) ∨ name = "#text" ∧ (Text.trimmed? text).isSome := by
  unfold ownEntries
  cases Text.trimmed? text with
  | none => simp [occupied_attributes]
  | some t => simp [occupied_setEntry, occupied_attributes, or_comm]

/-! ### Children -/

theorem addChild_eq_error_iff (name : String) (child : Value) (m : List (Scalar × Value)) :
    (∃ f, addChild name child m = .error f) ↔ Occupied name m := by
  induction m with
  | nil => simp [addChild, Occupied]
  | cons p m ih =>
    obtain ⟨k, v⟩ := p
    unfold addChild Occupied
    split
    · cases v <;> simp
    · rw [← ih]
      cases addChild name child m <;> simp [Except.map]

/-- A child that is added occupies no name. -/
theorem addChild_occupied {name : String} {child : Value} {m m' : List (Scalar × Value)}
    (h : addChild name child m = .ok m') (other : String) : Occupied other m' ↔ Occupied other m := by
  induction m generalizing m' with
  | nil =>
    obtain rfl := Except.ok.inj h
    simp [Occupied]
  | cons p m ih =>
    obtain ⟨k, v⟩ := p
    unfold addChild at h
    split at h
    · split at h
      · obtain rfl := Except.ok.inj h
        simp [Occupied]
      · cases h
    · cases hm : addChild name child m with
      | error f =>
        rw [hm] at h
        cases h
      | ok m₁ =>
        rw [hm] at h
        obtain rfl := Except.ok.inj h
        simp [Occupied, ih hm]

theorem clashes_iff (tag text : String) (attributes : List (String × String)) (children : List Element) :
    Clashes ⟨tag, attributes, text, children⟩ ↔
      ∃ c ∈ children, Clashes c ∨ Occupied c.tag (ownEntries attributes text) := by
  constructor
  · rintro (⟨hc, hname⟩ | ⟨hc, hname, htext⟩ | ⟨hc, h⟩)
    · exact ⟨_, hc, .inr ((occupied_ownEntries _ _ _).2 (.inl hname))⟩
    · exact ⟨_, hc, .inr ((occupied_ownEntries _ _ _).2 (.inr ⟨hname, htext⟩))⟩
    · exact ⟨_, hc, .inl h⟩
  · rintro ⟨c, hc, h | h⟩
    · exact .inside hc h
    · rcases (occupied_ownEntries _ _ _).1 h with hname | ⟨hname, htext⟩
      · exact .attribute hc hname
      · exact .text hc hname htext

mutual
/-- An element cannot be stored if names clash in it, and only then. -/
theorem subtree_eq_error_iff : (e : Element) → ((∃ f, subtree e = .error f) ↔ Clashes e)
  | ⟨tag, attributes, text, children⟩ => by
    rw [clashes_iff, ← withChildren_eq_error_iff children, subtree]
    cases withChildren (ownEntries attributes text) children <;> simp [Except.map]

theorem withChildren_eq_error_iff : (l : List Element) → (m : List (Scalar × Value)) →
    ((∃ f, withChildren m l = .error f) ↔ ∃ c ∈ l, Clashes c ∨ Occupied c.tag m)
  | [], m => by simp [withChildren]
  | c :: l, m => by
    have hc := subtree_eq_error_iff c
    unfold withChildren
    cases hv : subtree c with
    | error f =>
      rw [hv] at hc
      have hclash : Clashes c := hc.1 ⟨f, rfl⟩
      simp [hclash]
    | ok v =>
      rw [hv] at hc
      have hclash : ¬ Clashes c := fun h => by
        obtain ⟨f, hf⟩ := hc.2 h
        cases hf
      have hadd := addChild_eq_error_iff c.tag v m
      cases hm : addChild c.tag v m with
      | error f =>
        rw [hm] at hadd
        have ho : Occupied c.tag m := hadd.1 ⟨f, rfl⟩
        simp [hm, ho]
      | ok m' =>
        rw [hm] at hadd
        have ho : ¬ Occupied c.tag m := fun h => by
          obtain ⟨f, hf⟩ := hadd.2 h
          cases hf
        -- the other children meet the names that were occupied before
        have ih := withChildren_eq_error_iff l m'
        simp only [addChild_occupied hm] at ih
        simp [hm, ih, hclash, ho]
end

end LadderAtlas.L5x
