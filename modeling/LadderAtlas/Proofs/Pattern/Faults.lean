import LadderAtlas.Proofs.Pattern.Reading

/-!
# What a pattern can be refused for

Most texts that are no patterns are malformed. The reader has two other reasons, and both stand in the text: a number
of repetitions in braces, and options of the whole pattern that exclude each other (`accounts_of_ofText`). The parsers
are steady, one after the other and those for a whole pattern by induction on the fuel. Only where the two reasons are
read, which is in `bounds` and `optionsOn`, what has been read is kept in view.
-/

namespace LadderAtlas.Pattern

namespace Parser
variable {l read : List Token} {p : Progress}

/-! ### Codes, groups and sets -/

section names
variable [Text.CharacterNames]

end names

/-! ### Repetitions -/

/-- Letters that set options, with those options. -/
def Letters (letters : List Char) (on : Options) : Prop :=
  (∀ c ∈ letters, (PatternOption.ofChar? c).isSome = true) ∧ ∀ o ∈ on, o ∈ letters.filterMap PatternOption.ofChar?

theorem Letters.snoc {letters : List Char} {on : Options} (h : Letters letters on) {c : Char} {o : PatternOption}
    (ho : PatternOption.ofChar? c = some o) : Letters (letters ++ [c]) (o :: on) := by
  constructor
  · rw [List.forall_mem_append, List.forall_mem_singleton]
    exact ⟨h.1, by rw [ho]; rfl⟩
  · rw [List.forall_mem_cons, List.filterMap_append]
    refine ⟨List.mem_append_right _ (by simp [ho]), fun o' ho' => List.mem_append_left _ (h.2 o' ho')⟩

end Parser

end LadderAtlas.Pattern
