import LadderAtlas.Unique

/-! # Orders of keys

Listings are sorted by texts, or by pairs that begin with a text. Both orders are linear
(`isOrder_textLe`, `isOrder_pairLe`), so a sorted list without repetition ascends strictly, and two
sorted lists of the same items are one (`IsOrder.mergeSort_eq`). -/

namespace LadderAtlas

/-- A linear order as it is used for sorting. -/
structure IsOrder {κ : Type} (le : κ → κ → Bool) : Prop where
  trans : ∀ {a b c}, le a b = true → le b c = true → le a c = true
  total : ∀ a b, (le a b || le b a) = true
  antisymm : ∀ {a b}, le a b = true → le b a = true → a = b

/-- The strict order on pairs of texts: by the first texts, and by the second where these are equal. -/
def PairLt (a b : String × String) : Prop := a.1 < b.1 ∨ a.1 = b.1 ∧ a.2 < b.2

namespace IsOrder
variable {κ : Type} {le : κ → κ → Bool}

theorem pairwise_mergeSort (h : IsOrder le) (l : List κ) :
    (l.mergeSort le).Pairwise fun a b => le a b = true := by
  have htrans : ∀ a b c, le a b = true → le b c = true → le a c = true := fun _ _ _ => h.trans
  exact List.pairwise_mergeSort htrans h.total l

/-- Sorting forgets in which order the items came. -/
theorem mergeSort_eq (h : IsOrder le) {l l' : List κ} (hp : l.Perm l') : l.mergeSort le = l'.mergeSort le := by
  have hperm : (l.mergeSort le).Perm (l'.mergeSort le) :=
    (List.mergeSort_perm l le).trans (hp.trans (List.mergeSort_perm l' le).symm)
  exact hperm.eq_of_pairwise (fun _ _ _ _ => h.antisymm) (h.pairwise_mergeSort l) (h.pairwise_mergeSort l')

theorem pairwise_ne_mergeSort (h : IsOrder le) {l : List κ} (hl : l.Nodup) :
    (l.mergeSort le).Pairwise fun a b => le a b = true ∧ a ≠ b :=
  (h.pairwise_mergeSort l).and ((List.mergeSort_perm l le).nodup_iff.2 hl)

end IsOrder

theorem textLe_iff (a b : String) : textLe a b = true ↔ a ≤ b := by
  rw [textLe, Bool.not_eq_true', decide_eq_false_iff_not]
  exact String.not_lt

theorem isOrder_textLe : IsOrder textLe where
  trans h₁ h₂ := (textLe_iff _ _).2 (String.le_trans ((textLe_iff _ _).1 h₁) ((textLe_iff _ _).1 h₂))
  total a b := by
    rw [Bool.or_eq_true, textLe_iff, textLe_iff]
    exact String.le_total a b
  antisymm h₁ h₂ := String.le_antisymm ((textLe_iff _ _).1 h₁) ((textLe_iff _ _).1 h₂)

theorem lt_of_textLe {a b : String} (h : textLe a b = true) (hne : a ≠ b) : a < b := by
  refine Decidable.not_not.1 fun hlt => hne ?_
  exact String.le_antisymm ((textLe_iff a b).1 h) (String.not_lt.1 hlt)

section pairs
variable {α β : Type} [BEq α] [LawfulBEq α] {le₁ : α → α → Bool} {le₂ : β → β → Bool}

theorem pairLe_of_eq {a b : α × β} (h : a.1 = b.1) : pairLe le₁ le₂ a b = le₂ a.2 b.2 := by
  simp [pairLe, h]

theorem pairLe_of_ne {a b : α × β} (h : a.1 ≠ b.1) : pairLe le₁ le₂ a b = le₁ a.1 b.1 := by
  simp [pairLe, h]

theorem isOrder_pairLe (h₁ : IsOrder le₁) (h₂ : IsOrder le₂) : IsOrder (pairLe le₁ le₂) where
  trans {a b c} hab hbc := by
    by_cases eab : a.1 = b.1
    · rw [pairLe_of_eq eab] at hab
      by_cases ebc : b.1 = c.1
      · rw [pairLe_of_eq ebc] at hbc
        rw [pairLe_of_eq (eab.trans ebc)]
        exact h₂.trans hab hbc
      · rw [pairLe_of_ne ebc] at hbc
        rw [pairLe_of_ne (eab ▸ ebc), eab]
        exact hbc
    · rw [pairLe_of_ne eab] at hab
      by_cases ebc : b.1 = c.1
      · rw [pairLe_of_ne (ebc ▸ eab), ← ebc]
        exact hab
      · rw [pairLe_of_ne ebc] at hbc
        -- were the outer parts equal, the middle one would be equal to both
        have eac : a.1 ≠ c.1 := fun h => eab (h₁.antisymm hab (h ▸ hbc))
        rw [pairLe_of_ne eac]
        exact h₁.trans hab hbc
  total a b := by
    by_cases e : a.1 = b.1
    · rw [pairLe_of_eq e, pairLe_of_eq e.symm]
      exact h₂.total _ _
    · rw [pairLe_of_ne e, pairLe_of_ne (Ne.symm e)]
      exact h₁.total _ _
  antisymm {a b} hab hba := by
    by_cases e : a.1 = b.1
    · rw [pairLe_of_eq e] at hab
      rw [pairLe_of_eq e.symm] at hba
      exact Prod.ext e (h₂.antisymm hab hba)
    · rw [pairLe_of_ne e] at hab
      rw [pairLe_of_ne (Ne.symm e)] at hba
      exact absurd (h₁.antisymm hab hba) e

end pairs

theorem pairLt_of_pairLe {a b : String × String} (h : pairLe textLe textLe a b = true) (hne : a ≠ b) :
    PairLt a b := by
  by_cases e : a.1 = b.1
  · rw [pairLe_of_eq e] at h
    exact .inr ⟨e, lt_of_textLe h fun e₂ => hne (Prod.ext e e₂)⟩
  · rw [pairLe_of_ne e] at h
    exact .inl (lt_of_textLe h e)

end LadderAtlas
