import LadderAtlas.Proofs.Ladder.Literals
import LadderAtlas.Proofs.Ladder.RecordedNames

/-!
# Taking indices apart

A name that is found in an index is shorter than the path around it. So `indexTags` never comes to the end of its
depth, and what it finds in a path can be told without one (`indexTags_eq`). In a path without quotes each index is
read as an expression, part by part between its commas: the parts that are left out as literals name no tag
(`indexTags_of_unquoted`).
-/

namespace LadderAtlas.Ladder
open Text

section lengths
variable {s t : List Char}

theorem IsHidden.ne_nil (h : IsHidden t) : t ≠ [] := by
  cases h with
  | quoted _ _ => simp
  | radix hn =>
    obtain ⟨d, v, -, -, -, rfl⟩ := hn.split
    simp

theorem length_expressionTags (h : t ∈ expressionTags s) : t.length ≤ s.length := by
  obtain ⟨-, hinfix⟩ := mem_pathsFrom (List.mem_of_mem_filter h)
  calc t.length ≤ (blankRadix false (blankQuotes s)).length := hinfix.length_le
    _ ≤ (blankQuotes s).length := (blanked_blankRadix _ _).length_le fun _ hn => (IsHidden.radix hn).ne_nil
    _ ≤ s.length := (blanked_blankQuotes s).length_le fun _ => IsHidden.ne_nil

theorem length_bracketsFrom {depth : Int} {inside : List Char} (h : t ∈ bracketsFrom depth inside s) :
    t.length < inside.length + s.length := by
  induction s generalizing depth inside with
  | nil => cases h
  | cons c s ih =>
    have hkeep : ∀ d, t ∈ bracketsFrom d (c :: inside) s → t.length < inside.length + (c :: s).length := by
      intro d hd
      have hlt := ih hd
      rw [List.length_cons] at hlt ⊢
      omega
    rw [bracketsFrom] at h
    split at h
    · split at h
      · have hlt : t.length < 0 + s.length := ih h
        rw [List.length_cons]
        omega
      · exact hkeep _ h
    · split at h
      · split at h
        · rcases List.mem_cons.1 h with rfl | h
          · rw [List.length_reverse, List.length_cons]
            omega
          · exact hkeep _ h
        · exact hkeep _ h
      · exact hkeep _ h

/-- Brackets are longer than what is in them. -/
theorem length_brackets (h : t ∈ brackets s) : t.length < s.length := by
  have hlt := length_bracketsFrom h
  rwa [List.length_nil, Nat.zero_add] at hlt

end lengths

/-! ### Depth -/

section depth
variable {s t p : List Char} {d e : Nat}

/-- What is looked at in the indices of a path. -/
def indexOperands (path : List Char) : List (List Char) :=
  ((brackets path).flatMap operands).filter fun p => !p.isEmpty && !isLiteral p

theorem indexTagsTo_succ (d : Nat) (path : List Char) : indexTagsTo (d + 1) path =
    (indexOperands path).flatMap fun p => (expressionTags p).flatMap fun t => t :: indexTagsTo d t := rfl

theorem length_of_mem_indexOperands (hp : p ∈ indexOperands s) (ht : t ∈ expressionTags p) : t.length < s.length := by
  obtain ⟨i, hi, hp⟩ := List.mem_flatMap.1 (List.mem_of_mem_filter hp)
  calc t.length ≤ p.length := length_expressionTags ht
    _ ≤ i.length := (mem_operands hp).length_le
    _ < s.length := length_brackets hi

/-- It does not matter how deep indices are looked into, if only as deep as the path is long. -/
theorem indexTagsTo_eq (hd : s.length ≤ d) (he : s.length ≤ e) : indexTagsTo d s = indexTagsTo e s := by
  have hnil : ∀ k, indexTagsTo k [] = [] := by
    intro k
    cases k <;> rfl
  induction d generalizing s e with
  | zero =>
    obtain rfl := List.length_eq_zero_iff.1 (Nat.le_zero.1 hd)
    rw [hnil, hnil]
  | succ d ih =>
    cases e with
    | zero =>
      obtain rfl := List.length_eq_zero_iff.1 (Nat.le_zero.1 he)
      rw [hnil, hnil]
    | succ e =>
      rw [indexTagsTo_succ, indexTagsTo_succ]
      refine List.flatMap_congr fun p hp => List.flatMap_congr fun t ht => ?_
      have hlt := length_of_mem_indexOperands hp ht
      rw [ih (e := e) (by omega) (by omega)]

theorem indexTags_eq (s : List Char) : indexTags s =
    (indexOperands s).flatMap fun p => (expressionTags p).flatMap fun t => t :: indexTags t := by
  have hdepth : indexTags s = indexTagsTo (s.length + 1) s := indexTagsTo_eq (Nat.le_refl _) (Nat.le_succ _)
  rw [hdepth, indexTagsTo_succ]
  refine List.flatMap_congr fun p hp => List.flatMap_congr fun t ht => ?_
  have hlt := length_of_mem_indexOperands hp ht
  rw [indexTagsTo_eq (e := t.length) (by omega) (Nat.le_refl _)]
  rfl

end depth

/-! ### Paths without quotes -/

section unquoted
variable {s t : List Char}

theorem expressionTags_of_isLiteral (hs : ∀ c ∈ s, ¬ IsQuote c) (h : isLiteral s = true) : expressionTags s = [] := by
  by_contra htags
  obtain ⟨hq, -, -, -⟩ := isLiteral_and_expressionTags_iff.1 ⟨h, htags⟩
  exact hs _ (by simp) hq

/-- The operands that are left out have no tags. -/
theorem flatMap_operands {α : Type} (f : List Char → List α) (hs : ∀ c ∈ s, ¬ IsQuote c) :
    ((operands s).filter fun p => !p.isEmpty && !isLiteral p).flatMap (fun p => (expressionTags p).flatMap f) =
      (splitCommas none 0 s).flatMap fun p => (expressionTags p).flatMap f := by
  have hfilter : ∀ l : List (List Char), (∀ p ∈ l, ∀ c ∈ p, ¬ IsQuote c) →
      (l.filter fun p => !p.isEmpty && !isLiteral p).flatMap (fun p => (expressionTags p).flatMap f) =
        l.flatMap fun p => (expressionTags p).flatMap f := by
    intro l hl
    induction l with
    | nil => rfl
    | cons p l ih =>
      obtain ⟨hp, hl⟩ := List.forall_mem_cons.1 hl
      rw [List.flatMap_cons, ← ih hl]
      by_cases hkeep : (!p.isEmpty && !isLiteral p) = true
      · rw [List.filter_cons_of_pos (by exact hkeep), List.flatMap_cons]
      · have hnone : expressionTags p = [] := by
          rw [Bool.and_eq_true, not_and_or, Bool.not_eq_true', Bool.not_eq_true', Bool.not_eq_false,
            Bool.not_eq_false] at hkeep
          rcases hkeep with hempty | hliteral
          · rw [List.isEmpty_iff.1 hempty, expressionTags_nil]
          · exact expressionTags_of_isLiteral hp hliteral
        rw [List.filter_cons_of_neg (by exact hkeep), hnone]
        rfl
  have hoperands : (operands s).flatMap (fun p => (expressionTags p).flatMap f) =
      ((splitCommas none 0 s).map trim).flatMap fun p => (expressionTags p).flatMap f := by
    rw [operands]
    split
    · rename_i hone
      rw [hone, List.flatMap_singleton, expressionTags_nil]
      rfl
    · rfl
  rw [hfilter _ fun p hp c hc => hs c ((mem_operands hp).subset hc), hoperands, List.flatMap_map]
  exact List.flatMap_congr fun p _ => by rw [expressionTags_trim]

theorem indexTags_of_unquoted (hs : ∀ c ∈ s, ¬ IsQuote c) : indexTags s =
    (brackets s).flatMap fun i => (splitCommas none 0 i).flatMap fun p =>
      (expressionTags p).flatMap fun t => t :: indexTags t := by
  rw [indexTags_eq, indexOperands, List.filter_flatMap, List.flatMap_assoc]
  exact List.flatMap_congr fun i hi => flatMap_operands _ fun c hc => hs c ((mem_brackets hi).subset hc)

end unquoted

end LadderAtlas.Ladder
