import LadderAtlas.Export.Context
import Mathlib.Order.Bounds.Basic

/-!
# Texts that are cut to a bound

Whether a text fits is decided before anything is measured. Otherwise room is left for the line that says how much is
missing, as if all were missing: the number stated in the end is smaller and so takes no more digits
(`length_omissionMark_le`), which is why the bound holds (`length_truncate_le`). The text is cut at the end of a line
if one ends within the room, though not before the first character, which would leave nothing (`cutPlace_cases`).
-/

namespace LadderAtlas.Export

/-- A line feed stands at `n`, which is neither the beginning of the text nor beyond the budget. -/
def EndsLine (s : List Char) (budget n : Nat) : Prop := 1 ≤ n ∧ n ≤ budget ∧ s[n]? = some '\n'

/-- The beginning of a text that is cut, and what is missing. Both are something, and the cut is at the last end of a
line within the budget, or at the budget if no line ends there. -/
structure IsCut (s : List Char) (budget : Nat) (head missing : List Char) : Prop where
  text : s = head ++ missing
  head_ne_nil : head ≠ []
  missing_ne_nil : missing ≠ []
  place : IsGreatest {n | EndsLine s budget n} head.length ∨ (∀ n, ¬ EndsLine s budget n) ∧ head.length = budget

/-! ### The mark -/

theorem length_toDigits_mono {m n : Nat} (h : m ≤ n) : (Nat.toDigits 10 m).length ≤ (Nat.toDigits 10 n).length := by
  have hpos (n : Nat) : 0 < (Nat.toDigits 10 n).length := List.length_pos_iff.2 Nat.toDigits_ne_nil
  rw [Nat.length_toDigits_le_iff (by decide) (hpos n)]
  exact h.trans_lt ((Nat.length_toDigits_le_iff (by decide) (hpos n)).1 le_rfl)

theorem length_omissionMark_le {m n : Nat} (h : m ≤ n) : (omissionMark m).length ≤ (omissionMark n).length := by
  have hdigits := length_toDigits_mono h
  simp only [omissionMark, Number.natText, String.toList_append, String.toList_ofList, List.length_append]
  omega

/-! ### Where a text is cut -/

theorem lastLineFeed?_eq_none (s : List Char) : lastLineFeed? s = none ↔ '\n' ∉ s := by
  simp [lastLineFeed?]

theorem lastLineFeed?_append {u v : List Char} (hv : '\n' ∉ v) : lastLineFeed? (u ++ '\n' :: v) = some u.length := by
  have hplain : ∀ c ∈ v.reverse, decide (c ≠ '\n') = true := fun c hc =>
    decide_eq_true fun h => hv (h ▸ List.mem_reverse.1 hc)
  have hrev : (u ++ '\n' :: v).reverse = v.reverse ++ '\n' :: u.reverse := by simp
  rw [lastLineFeed?, if_pos (by simp), hrev, List.dropWhile_append_of_pos hplain, List.dropWhile_cons_of_neg (by simp),
    List.tail_cons, List.length_reverse]

theorem exists_last_lineFeed {s : List Char} (h : '\n' ∈ s) : ∃ u v, s = u ++ '\n' :: v ∧ '\n' ∉ v := by
  obtain ⟨v, u, hs, hv⟩ := List.eq_append_cons_of_mem (List.mem_reverse.2 h)
  refine ⟨u.reverse, v.reverse, ?_, fun hmem => hv (List.mem_reverse.1 hmem)⟩
  rw [← List.reverse_reverse s, hs]
  simp

theorem cutPlace_of_notMem {s : List Char} {budget : Nat} (h : '\n' ∉ s.take (budget + 1)) :
    cutPlace s budget = budget := by
  rw [cutPlace, (lastLineFeed?_eq_none _).2 h]

theorem cutPlace_of_append {s u v : List Char} {budget : Nat} (h : s.take (budget + 1) = u ++ '\n' :: v)
    (hv : '\n' ∉ v) : cutPlace s budget = if u = [] then budget else u.length := by
  rw [cutPlace, h, lastLineFeed?_append hv]
  cases u <;> rfl

theorem endsLine_iff (s : List Char) (budget n : Nat) :
    EndsLine s budget n ↔ 1 ≤ n ∧ (s.take (budget + 1))[n]? = some '\n' := by
  by_cases hn : n ≤ budget
  · rw [EndsLine, List.getElem?_take_of_lt (Nat.lt_succ_of_le hn), and_iff_right hn]
  · rw [EndsLine, List.getElem?_take_eq_none (by omega)]
    simp [hn]

theorem cutPlace_cases (s : List Char) (budget : Nat) : IsGreatest {n | EndsLine s budget n} (cutPlace s budget) ∨
    (∀ n, ¬ EndsLine s budget n) ∧ cutPlace s budget = budget := by
  by_cases hfeed : '\n' ∈ s.take (budget + 1)
  case neg =>
    exact .inr ⟨fun n hn => hfeed (List.mem_of_getElem? ((endsLine_iff s budget n).1 hn).2), cutPlace_of_notMem hfeed⟩
  case pos =>
    obtain ⟨u, v, huv, hv⟩ := exists_last_lineFeed hfeed
    have hlast (n : Nat) (hn : EndsLine s budget n) : n ≤ u.length := by
      have hat := ((endsLine_iff s budget n).1 hn).2
      rw [huv] at hat
      by_contra hgt
      obtain ⟨k, rfl⟩ : ∃ k, n = u.length + (k + 1) := ⟨n - u.length - 1, by omega⟩
      rw [List.getElem?_append_right (by omega), Nat.add_sub_cancel_left, List.getElem?_cons_succ] at hat
      exact hv (List.mem_of_getElem? hat)
    rw [cutPlace_of_append huv hv]
    by_cases hu : u = []
    · rw [if_pos hu]
      refine .inr ⟨fun n hn => ?_, rfl⟩
      have hzero : n ≤ 0 := by simpa [hu] using hlast n hn
      exact absurd hn.1 (by omega)
    · rw [if_neg hu]
      refine .inl ⟨(endsLine_iff s budget _).2 ⟨List.length_pos_iff.2 hu, ?_⟩, fun n hn => hlast n hn⟩
      rw [huv]
      simp

theorem cutPlace_pos {s : List Char} {budget : Nat} (h : 0 < budget) : 0 < cutPlace s budget := by
  rcases cutPlace_cases s budget with hgreatest | ⟨-, heq⟩
  · exact hgreatest.1.1
  · rwa [heq]

theorem cutPlace_le (s : List Char) (budget : Nat) : cutPlace s budget ≤ budget := by
  rcases cutPlace_cases s budget with hgreatest | ⟨-, heq⟩
  · exact hgreatest.1.2.1
  · exact heq.le

/-! ### What is left of a text -/

theorem truncate_of_fits {s : List Char} {bound : Int} (h : s.length ≤ bound) : truncate s bound = s := if_pos h

/-- Without room for the mark the text is cut at the bound. -/
theorem truncate_of_tight {s : List Char} {bound : Int} (h : bound < s.length) (h₀ : 0 ≤ bound)
    (htight : bound ≤ (omissionMark s.length).length + 1) : truncate s bound = s.take bound.toNat := by
  rw [truncate, if_neg (by omega)]
  simp only
  rw [if_pos (by omega), firstUpTo, if_pos h₀]

theorem exists_isCut {s : List Char} {bound : Int} (h : bound < s.length)
    (hroom : (omissionMark s.length).length + 2 ≤ bound) :
    ∃ head missing, IsCut s (bound - (omissionMark s.length).length - 1).toNat head missing ∧
      truncate s bound = head ++ '\n' :: omissionMark missing.length := by
  let budget := (bound - (omissionMark s.length).length - 1).toNat
  have hpos : 0 < budget := by omega
  have hle := cutPlace_le s budget
  have hlength : (s.take (cutPlace s budget)).length = cutPlace s budget := by
    rw [List.length_take]
    omega
  refine ⟨s.take (cutPlace s budget), s.drop (cutPlace s budget), ⟨?text, ?head, ?missing, ?place⟩, ?eq⟩
  case text => exact (List.take_append_drop ..).symm
  case head =>
    rw [← List.length_pos_iff, hlength]
    exact cutPlace_pos hpos
  case missing =>
    rw [← List.length_pos_iff, List.length_drop]
    omega
  case place =>
    rw [hlength]
    exact cutPlace_cases s budget
  case eq =>
    rw [truncate, if_neg (by omega)]
    simp only
    rw [if_neg (by omega), List.length_drop, hlength]

theorem length_truncate_le (s : List Char) {bound : Int} (h₀ : 0 ≤ bound) : (truncate s bound).length ≤ bound := by
  by_cases hfits : s.length ≤ bound
  · rw [truncate_of_fits hfits]
    exact hfits
  · have h : bound < s.length := by omega
    by_cases htight : bound ≤ (omissionMark s.length).length + 1
    · rw [truncate_of_tight h h₀ htight, List.length_take]
      omega
    · obtain ⟨head, missing, hcut, heq⟩ := exists_isCut h (by omega)
      have hmark := length_omissionMark_le (m := missing.length) (n := s.length) (by simp [hcut.text])
      have hhead : head.length ≤ (bound - (omissionMark s.length).length - 1).toNat := by
        rcases hcut.place with hgreatest | ⟨-, hat⟩
        · exact hgreatest.1.2.1
        · exact hat.le
      rw [heq, List.length_append, List.length_cons]
      omega

/-- A text that fits is left as it is. Any other is brought within the bound; with room for a character and a whole
line about what is missing, it is cut at the end of a line and says how many characters are missing. -/
theorem truncate_bounded (s : List Char) (bound : Int) (h₀ : 0 ≤ bound) :
    (s.length ≤ bound → truncate s bound = s) ∧
      (bound < s.length → (truncate s bound).length ≤ bound) ∧
      (bound < s.length → (omissionMark s.length).length + 2 ≤ bound →
        ∃ head missing, IsCut s (bound - (omissionMark s.length).length - 1).toNat head missing ∧
          truncate s bound = head ++ '\n' :: omissionMark missing.length) :=
  ⟨truncate_of_fits, fun _ => length_truncate_le s h₀, exists_isCut⟩

/-- Of two lines the first is kept where the second does not fit. -/
theorem truncate_bounded_twoLines : ∃ head missing,
    IsCut ("PUMP STATION\n".toList ++ List.replicate 60 'x') 15 head missing ∧
      truncate ("PUMP STATION\n".toList ++ List.replicate 60 'x') 66 = head ++ '\n' :: omissionMark missing.length :=
  (truncate_bounded ("PUMP STATION\n".toList ++ List.replicate 60 'x') 66 (by decide)).2.2 (by decide) (by decide)

theorem length_contextSummary_le (title : String) (snapshots : List Snapshot) {bound : Int} (h₀ : 0 ≤ bound) :
    (contextSummary title snapshots bound).length ≤ bound := by
  rw [contextSummary, String.length_ofList]
  exact length_truncate_le _ h₀

end LadderAtlas.Export
