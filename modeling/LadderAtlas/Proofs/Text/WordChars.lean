import LadderAtlas.Proofs.Number.Misread
import LadderAtlas.Text.WordChar
import Mathlib.Data.List.Chain

/-!
# Digits and blanks among the word characters

Every decimal digit is a word character and no blank is one. Looking up many points in a long list of ranges is
done in one walk over both (`hasEach_eq`).
-/

namespace LadderAtlas.Text

namespace Ranges

/-- Which of some ascending points lie in the ranges. -/
def hasEach : Ranges → List Nat → List Bool
  | [], ns => ns.map fun _ => false
  | r :: rs, ns => (ns.takeWhile (· ≤ r.2)).map (fun n => decide (r.1 ≤ n)) ++ hasEach rs (ns.dropWhile (· ≤ r.2))

theorem lt_of_mem_dropWhile {ns : List Nat} (hns : ns.Pairwise (· ≤ ·)) {k n : Nat}
    (hn : n ∈ ns.dropWhile (· ≤ k)) : k < n := by
  induction ns with
  | nil => cases hn
  | cons m ns ih =>
    obtain ⟨hm, hns⟩ := List.pairwise_cons.1 hns
    by_cases hmk : m ≤ k
    · rw [List.dropWhile_cons_of_pos (by simpa using hmk)] at hn
      exact ih hns hn
    · rw [List.dropWhile_cons_of_neg (by simpa using hmk)] at hn
      rcases List.mem_cons.1 hn with rfl | hn
      · omega
      · have := hm n hn
        omega

theorem hasEach_eq {rs : Ranges} {ns : List Nat} (hrs : ∀ r ∈ rs, r.1 ≤ r.2) (hns : ns.Pairwise (· ≤ ·)) :
    hasEach rs ns = ns.map (has rs) := by
  induction rs generalizing ns with
  | nil => rfl
  | cons r rs ih =>
    obtain ⟨hr, hrs⟩ := List.forall_mem_cons.1 hrs
    have htake : ∀ n ∈ ns.takeWhile (· ≤ r.2), decide (r.1 ≤ n) = has (r :: rs) n := by
      intro n hn
      have hle : decide (n ≤ r.2) = true := List.all_eq_true.1 List.all_takeWhile n hn
      by_cases hlt : n < r.1
      · rw [has, if_pos hlt]
        exact decide_eq_false (by omega)
      · rw [has, if_neg hlt, hle, Bool.true_or]
        exact decide_eq_true (by omega)
    have hdrop : ∀ n ∈ ns.dropWhile (· ≤ r.2), has rs n = has (r :: rs) n := by
      intro n hn
      have hlt := lt_of_mem_dropWhile hns hn
      rw [has, if_neg (by omega), decide_eq_false (by omega), Bool.false_or]
    rw [hasEach, ih hrs (hns.sublist (List.dropWhile_sublist _)), List.map_congr_left htake,
      List.map_congr_left hdrop, ← List.map_append, List.takeWhile_append_dropWhile]

end Ranges

theorem le_of_mem_alphanumericRanges : ∀ r ∈ alphanumericRanges, r.1 ≤ r.2 := by decide +kernel

/-- The code points of the decimal digits. -/
def decimalPoints : List Nat := decimalZeros.flatMap fun z => (List.range 10).map (z + ·)

theorem pairwise_decimalPoints : decimalPoints.Pairwise (· ≤ ·) := by
  rw [← List.isChain_iff_pairwise]
  decide +kernel

theorem mem_decimalPoints {c : Char} (h : isDecimal c = true) : c.toNat ∈ decimalPoints := by
  rw [isDecimal, decimalValue?] at h
  split at h
  · by_cases hd : c.isDigit = true
    · have hn : (decide (c.val ≥ 48) && decide (c.val ≤ 57)) = true := hd
      rw [Bool.and_eq_true, decide_eq_true_iff, decide_eq_true_iff] at hn
      have hlow : 48 ≤ c.toNat := UInt32.le_iff_toNat_le.1 hn.1
      have hhigh : c.toNat ≤ 57 := UInt32.le_iff_toNat_le.1 hn.2
      exact List.mem_flatMap.2 ⟨48, by decide, List.mem_map.2 ⟨c.toNat - 48, List.mem_range.2 (by omega), by omega⟩⟩
    · rw [if_neg hd] at h
      cases h
  · rw [Option.isSome_map] at h
    obtain ⟨z, hz⟩ := Option.isSome_iff_exists.1 h
    have hrange := List.find?_some hz
    rw [Bool.and_eq_true, decide_eq_true_iff, decide_eq_true_iff] at hrange
    exact List.mem_flatMap.2 ⟨z, List.mem_of_find?_eq_some hz,
      List.mem_map.2 ⟨c.toNat - z, List.mem_range.2 (by omega), by omega⟩⟩

/-- A look-up in the table that comes out alike for all of some points, among them the one of a character. -/
theorem has_alphanumericRanges {ns : List Nat} {b : Bool} (hns : ns.Pairwise (· ≤ ·))
    (hb : (alphanumericRanges.hasEach ns).all (· == b) = true) {n : Nat} (hn : n ∈ ns) :
    alphanumericRanges.has n = b := by
  rw [Ranges.hasEach_eq le_of_mem_alphanumericRanges hns, List.all_map, List.all_eq_true] at hb
  exact beq_iff_eq.1 (hb n hn)

theorem isWordChar_of_isDecimal {c : Char} (h : isDecimal c = true) : isWordChar c = true := by
  have hhas : alphanumericRanges.has c.toNat = true :=
    has_alphanumericRanges pairwise_decimalPoints (by decide +kernel) (mem_decimalPoints h)
  rw [isWordChar, isAlphanumeric, Bool.or_eq_true]
  left
  split
  · rename_i hn
    rw [isDecimal, decimalValue?, if_pos hn] at h
    rw [Char.isAlphanum, Bool.or_eq_true]
    right
    cases hd : c.isDigit with
    | true => rfl
    | false =>
      rw [hd] at h
      cases h
  · exact hhas

theorem isWordChar_of_isBlank {c : Char} (h : isBlank c = true) : isWordChar c = false := by
  have hpoint := Number.mem_blankPoints h
  have hsorted : Number.blankPoints.Pairwise (· ≤ ·) := by decide
  have hhas : alphanumericRanges.has c.toNat = false := has_alphanumericRanges hsorted (by decide +kernel) hpoint
  have hascii : ∀ n ∈ Number.blankPoints, n < 128 → (Char.ofNat n).isAlphanum = false := by decide
  have hne : c ≠ '_' := by
    rintro rfl
    exact absurd h (by decide)
  rw [isWordChar, isAlphanumeric, Bool.or_eq_false_iff, beq_eq_false_iff_ne]
  refine ⟨?_, hne⟩
  split
  · rename_i hn
    have hc := hascii _ hpoint hn
    rwa [Char.ofNat_toNat] at hc
  · exact hhas

end LadderAtlas.Text
