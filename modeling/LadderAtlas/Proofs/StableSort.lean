import LadderAtlas.Proofs.Order
import LadderAtlas.Snapshot
import Mathlib.Data.Prod.Lex
import Mathlib.Data.String.Basic

/-!
# Stable sorting by a key

Listings are sorted by a key of their items, and items with the same key stay in the order in which they came. The
two conditions determine the listing (`IsStableSort.unique`), and merge sort meets them (`isStableSort_mergeSort`).
Keys of several parts are compared from the left, that is in the lexicographic order (`pairLe_iff_toLex`).
-/

namespace LadderAtlas

/-- `sorted` holds the items of `l` in the order of their keys; those with one key are in the order of `l`. -/
structure IsStableSort {α κ : Type} [LinearOrder κ] (key : α → κ) (l sorted : List α) : Prop where
  ordered : sorted.Pairwise fun a b => key a ≤ key b
  kept : ∀ k, sorted.filter (key · = k) = l.filter (key · = k)

section
variable {α κ : Type} [LinearOrder κ] {key : α → κ} {l l' s s' : List α}

theorem mem_of_filter_key_eq (h : ∀ k, s.filter (key · = k) = s'.filter (key · = k)) {a : α} (ha : a ∈ s) :
    a ∈ s' := by
  have hown : a ∈ s.filter (key · = key a) := List.mem_filter.2 ⟨ha, by simp⟩
  rw [h] at hown
  exact (List.mem_filter.1 hown).1

/-- Lists in the order of their keys are one if they agree on the items with each key. -/
theorem eq_of_filter_key_eq (hs : s.Pairwise fun a b => key a ≤ key b) (hs' : s'.Pairwise fun a b => key a ≤ key b)
    (h : ∀ k, s.filter (key · = k) = s'.filter (key · = k)) : s = s' := by
  induction s generalizing s' with
  | nil =>
    cases s' with
    | nil => rfl
    | cons b t' => exact absurd (mem_of_filter_key_eq (fun k => (h k).symm) (List.mem_cons_self ..)) List.not_mem_nil
  | cons a t ih =>
    cases s' with
    | nil => exact absurd (mem_of_filter_key_eq h (List.mem_cons_self ..)) List.not_mem_nil
    | cons b t' =>
      -- each head is an item of the other list, so neither key is above the other
      have hab : key a ≤ key b := by
        rcases List.mem_cons.1 (mem_of_filter_key_eq (fun k => (h k).symm) (List.mem_cons_self ..)) with rfl | hb
        · exact le_rfl
        · exact List.rel_of_pairwise_cons hs hb
      have hba : key b ≤ key a := by
        rcases List.mem_cons.1 (mem_of_filter_key_eq h (List.mem_cons_self ..)) with rfl | ha
        · exact le_rfl
        · exact List.rel_of_pairwise_cons hs' ha
      have hkey : key b = key a := le_antisymm hba hab
      have hhead := h (key a)
      rw [List.filter_cons_of_pos (by simp), List.filter_cons_of_pos (by simp [hkey])] at hhead
      obtain ⟨rfl, -⟩ := List.cons.inj hhead
      refine congrArg (a :: ·) (ih hs.of_cons hs'.of_cons fun k => ?_)
      have hk := h k
      rw [List.filter_cons, List.filter_cons] at hk
      split at hk
      · exact List.tail_eq_of_cons_eq hk
      · exact hk

namespace IsStableSort

theorem unique (h : IsStableSort key l s) (h' : IsStableSort key l s') : s = s' :=
  eq_of_filter_key_eq h.ordered h'.ordered fun k => (h.kept k).trans (h'.kept k).symm

theorem perm (h : IsStableSort key l s) : s.Perm l := by
  classical
  refine List.perm_iff_count.2 fun a => ?_
  have hown (l : List α) : (l.filter (key · = key a)).count a = l.count a := List.count_filter (by simp)
  rw [← hown s, ← hown l, h.kept]

/-- Where the key tells any two items apart, it does not matter in which order they came. -/
theorem of_perm (h : IsStableSort key l s) (hp : l.Perm l') (hkey : ∀ a ∈ l, ∀ b ∈ l, key a = key b → a = b) :
    IsStableSort key l' s where
  ordered := h.ordered
  kept k := by
    have hperm : (l.filter (key · = k)).Perm (l'.filter (key · = k)) := hp.filter _
    have hone (l : List α) : l.Pairwise fun _ _ => True := List.pairwise_of_forall fun _ _ => trivial
    rw [h.kept]
    refine hperm.eq_of_pairwise (fun a b ha hb _ _ => ?_) (hone _) (hone _)
    simp only [List.mem_filter, decide_eq_true_eq] at ha hb
    exact hkey a ha.1 b (hp.mem_iff.2 hb.1) (ha.2.trans hb.2.symm)

end IsStableSort

theorem isStableSort_mergeSort {le : α → α → Bool} (hle : ∀ a b, le a b = true ↔ key a ≤ key b) (l : List α) :
    IsStableSort key l (l.mergeSort le) := by
  have htrans (a b c : α) (hab : le a b = true) (hbc : le b c = true) : le a c = true :=
    (hle a c).2 (((hle a b).1 hab).trans ((hle b c).1 hbc))
  have htotal (a b : α) : (le a b || le b a) = true := by
    rw [Bool.or_eq_true, hle, hle]
    exact le_total _ _
  refine ⟨?ordered, fun k => ?kept⟩
  case ordered =>
    have hsorted : (l.mergeSort le).Pairwise fun a b => le a b = true := List.pairwise_mergeSort htrans htotal l
    exact hsorted.imp fun hab => (hle _ _).1 hab
  case kept =>
    -- items with one key are a sorted sublist, which merging keeps; there are no more of them afterwards
    have hsub : (l.filter (key · = k)).Sublist (l.mergeSort le) := by
      refine List.sublist_mergeSort htrans htotal ?_ List.filter_sublist
      refine List.pairwise_of_forall_mem_list fun a ha b hb => (hle a b).2 ?_
      simp only [List.mem_filter, decide_eq_true_eq] at ha hb
      exact (ha.2.trans hb.2.symm).le
    have hsub' : (l.filter (key · = k)).Sublist ((l.mergeSort le).filter (key · = k)) := by
      simpa only [List.filter_filter, Bool.and_self] using hsub.filter (key · = k)
    have hperm : ((l.mergeSort le).filter (key · = k)).Perm (l.filter (key · = k)) :=
      (List.mergeSort_perm l le).filter _
    exact (hsub'.eq_of_length hperm.length_eq.symm).symm

end

section pairs
variable {α β γ : Type} [LinearOrder α] [LinearOrder γ] {f : β → γ} {le₁ : α → α → Bool} {le₂ : β → β → Bool}

/-- Pairs are compared in the lexicographic order, where `f` is the key by which the second parts are compared. -/
theorem pairLe_iff_toLex (h₁ : ∀ x y, le₁ x y = true ↔ x ≤ y) (h₂ : ∀ x y, le₂ x y = true ↔ f x ≤ f y) (a b : α × β) :
    pairLe le₁ le₂ a b = true ↔ toLex (a.1, f a.2) ≤ toLex (b.1, f b.2) := by
  rw [Prod.Lex.toLex_le_toLex]
  by_cases e : a.1 = b.1
  · rw [pairLe_of_eq e, h₂]
    simp [e]
  · rw [pairLe_of_ne e, h₁]
    simp [e, le_iff_lt_or_eq]

end pairs

/-! ### The keys of listings -/

/-- What tags are sorted by. -/
def Tag.sortKey (t : Tag) : String ×ₗ String := toLex (t.name, t.scope)

theorem Tag.le_iff (a b : Tag) :
    pairLe textLe textLe (a.name, a.scope) (b.name, b.scope) = true ↔ a.sortKey ≤ b.sortKey :=
  pairLe_iff_toLex textLe_iff textLe_iff _ _

/-- What references are sorted by. -/
def TagReference.sortKey (r : TagReference) : String ×ₗ String ×ₗ String ×ₗ Int :=
  toLex (r.tagName, toLex (r.programName, toLex (r.routineName, r.rungNumber)))

theorem TagReference.le_iff (a b : TagReference) : TagReference.le a b = true ↔ a.sortKey ≤ b.sortKey := by
  have hrung (m n : Int) : decide (m ≤ n) = true ↔ m ≤ n := decide_eq_true_iff
  have hroutine := pairLe_iff_toLex textLe_iff hrung
  have hprogram := pairLe_iff_toLex textLe_iff hroutine
  exact pairLe_iff_toLex textLe_iff hprogram _ _

end LadderAtlas
