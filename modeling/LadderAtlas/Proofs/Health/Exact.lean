import LadderAtlas.Health.Score
import Mathlib.Algebra.BigOperators.Ring.List
import Mathlib.Algebra.Order.BigOperators.Group.List
import Mathlib.Algebra.Order.Field.Basic
import Mathlib.Algebra.Order.Ring.Rat
import Mathlib.Data.List.Forall2
import Mathlib.Tactic.Linarith
import Mathlib.Tactic.NormNum

/-! # Scores in exact arithmetic

Over the rational numbers the score is a weighted mean of the components that are computed (`overall_rat`). Since
rational division has a quotient by zero as well, it is told by numbers without one (`Checked`) that there is no
division by zero: what is reckoned in them is the same (`exact_overall`). -/

namespace LadderAtlas.Health

open ScoreNumber

/-! ### Scores side by side -/

section
variable {α β : Type} {R : α → β → Prop}

/-- Both metrics are computed, and their values are related, or both lack the same. -/
inductive Metric.Rel (R : α → β → Prop) : Metric α → Metric β → Prop
  | computed {a : α} {b : β} (h : R a b) : Rel R (.computed a) (.computed b)
  | lacking (why : Lack) : Rel R (.lacking why) (.lacking why)

/-- Values of the same component that are related. -/
structure Component.Rel (R : α → β → Prop) (p : Component × α) (q : Component × β) : Prop where
  component : p.1 = q.1
  value : R p.2 q.2

variable [ScoreNumber α] [ScoreNumber β] {s t : Stats}

/-- Each component of a score is related to that of another one. -/
structure Stats.Rel (R : α → β → Prop) (s t : Stats) : Prop where
  tagEfficiency : Metric.Rel R s.tagEfficiency t.tagEfficiency
  documentation : Metric.Rel R s.documentation t.documentation
  tagUsage : Metric.Rel R s.tagUsage t.tagUsage
  naming : Metric.Rel R s.naming t.naming

namespace Stats

theorem Rel.components (h : Rel R s t) (withNaming : Bool) :
    List.Forall₂ (Component.Rel (Metric.Rel R)) (s.components withNaming) (t.components withNaming) := by
  have hnaming : List.Forall₂ (Component.Rel (Metric.Rel R)) (if withNaming then [(.naming, s.naming)] else [])
      (if withNaming then [(.naming, t.naming)] else []) := by
    cases withNaming
    · exact .nil
    · exact .cons ⟨rfl, h.naming⟩ .nil
  exact .cons ⟨rfl, h.tagEfficiency⟩ (.cons ⟨rfl, h.documentation⟩ (.cons ⟨rfl, h.tagUsage⟩ hnaming))

/-- The same components are computed in both. -/
theorem Rel.computable (h : Rel R s t) (withNaming : Bool) :
    List.Forall₂ (Component.Rel R) (s.computable withNaming) (t.computable withNaming) := by
  refine List.rel_filterMap (fun p q hpq => ?_) (h.components withNaming)
  obtain ⟨c, m⟩ := p
  obtain ⟨c', m'⟩ := q
  obtain ⟨rfl, hm⟩ := hpq
  cases hm with
  | computed hab => exact .some ⟨rfl, hab⟩
  | lacking why => exact .none

/-- The weight of a component as a number. -/
def share (withNaming : Bool) (c : Component) : α := ratio (c.weight withNaming) 100

/-- The weighted mean of some components. -/
def mean (withNaming : Bool) (parts : List (Component × α)) : α :=
  total (parts.map fun p => share withNaming p.1 * p.2) / total (parts.map fun p => share withNaming p.1)

/-- The mean, between zero and a hundred. -/
def bounded (withNaming : Bool) (parts : List (Component × α)) : α :=
  atLeast (ofInt 0) (atMost (ofInt 100) (mean withNaming parts))

theorem overall_eq (s : Stats) (withNaming : Bool) :
    (s.overall withNaming : Metric α) =
      if (s.computable withNaming : List (Component × α)).isEmpty then .lacking .components
      else .computed (bounded withNaming (s.computable withNaming)) := rfl

/-- Scores are related if the means of related components are. -/
theorem Rel.overall (h : Rel R s t) {withNaming : Bool}
    (hbounded : ∀ (parts : List (Component × α)) (parts' : List (Component × β)),
      parts' ≠ [] → List.Forall₂ (Component.Rel R) parts parts' →
      R (bounded withNaming parts) (bounded withNaming parts')) :
    Metric.Rel R (s.overall withNaming) (t.overall withNaming) := by
  have hparts := h.computable withNaming
  rw [overall_eq, overall_eq]
  generalize (s.computable withNaming : List (Component × α)) = parts at hparts ⊢
  generalize (t.computable withNaming : List (Component × β)) = parts' at hparts ⊢
  cases hparts with
  | nil => exact .lacking _
  | cons hp hl => exact .computed (hbounded _ _ (List.cons_ne_nil _ _) (.cons hp hl))

end Stats

end

/-! ### The score as a mean -/

theorem ofInt_rat (n : Int) : (ofInt n : Rat) = n := div_one _

theorem ratio_nonneg {a b : Int} (ha : 0 ≤ a) (hb : 0 ≤ b) : 0 ≤ (ratio a b : Rat) :=
  div_nonneg (Int.cast_nonneg ha) (Int.cast_nonneg hb)

theorem ratio_le_ratio {a a' b : Int} (h : a ≤ a') (hb : 0 ≤ b) : (ratio a b : Rat) ≤ ratio a' b :=
  div_le_div_of_nonneg_right (Int.cast_le.2 h) (Int.cast_nonneg hb)

theorem ratio_le_one {a b : Int} (h : a ≤ b) (hb : 0 ≤ b) : (ratio a b : Rat) ≤ 1 :=
  div_le_one_of_le₀ (Int.cast_le.2 h) (Int.cast_nonneg hb)

theorem atLeast_rat (bound x : Rat) : atLeast bound x = max bound x := by
  simp only [atLeast, less, decide_eq_true_eq, max_def]
  split_ifs with h h' h'
  · rfl
  · exact absurd h.le h'
  · exact le_antisymm h' (not_lt.1 h)
  · rfl

theorem atMost_rat (bound x : Rat) : atMost bound x = min bound x := by
  simp only [atMost, less, decide_eq_true_eq, min_def]
  split_ifs with h h' h'
  · exact absurd h (not_lt.2 h')
  · rfl
  · rfl
  · exact absurd (not_le.1 h') h

namespace Stats

theorem penalized_rat (bad total : Int) : penalized bad total = max 0 (100 - ratio bad total * 200 : Rat) := by
  rw [penalized, atLeast_rat, ofInt_rat, ofInt_rat, ofInt_rat]
  rfl

theorem total_rat (l : List Rat) : total l = l.sum := by
  rw [total, ofInt_rat, List.sum_eq_foldl]
  rfl

theorem share_pos (withNaming : Bool) (c : Component) : (0 : Rat) < share withNaming c := by
  cases withNaming <;> cases c <;> decide +kernel

theorem mean_rat (withNaming : Bool) (parts : List (Component × Rat)) :
    mean withNaming parts =
      (parts.map fun p => share withNaming p.1 * p.2).sum / (parts.map fun p => share withNaming p.1).sum := by
  rw [mean, total_rat, total_rat]

theorem bounded_rat (withNaming : Bool) (parts : List (Component × Rat)) :
    bounded withNaming parts = max 0 (min 100 (mean withNaming parts)) := by
  rw [bounded, atLeast_rat, atMost_rat, ofInt_rat, ofInt_rat]
  rfl

variable {withNaming : Bool} {parts parts' : List (Component × Rat)}

theorem sum_share_pos (hne : parts ≠ []) : 0 < (parts.map fun p => (share withNaming p.1 : Rat)).sum :=
  List.sum_pos _ (List.forall_mem_map.2 fun p _ => share_pos withNaming p.1) (mt List.map_eq_nil_iff.1 hne)

theorem le_mean (hne : parts ≠ []) {lo : Rat} (hlo : ∀ p ∈ parts, lo ≤ p.2) : lo ≤ mean withNaming parts := by
  rw [mean_rat, le_div_iff₀ (sum_share_pos hne)]
  calc lo * (parts.map fun p => share withNaming p.1).sum
    _ = (parts.map fun p => share withNaming p.1 * lo).sum := by rw [List.sum_map_mul_right, mul_comm]
    _ ≤ (parts.map fun p => share withNaming p.1 * p.2).sum :=
      List.sum_le_sum fun p hp => mul_le_mul_of_nonneg_left (hlo p hp) (share_pos withNaming p.1).le

theorem mean_le (hne : parts ≠ []) {hi : Rat} (hhi : ∀ p ∈ parts, p.2 ≤ hi) : mean withNaming parts ≤ hi := by
  rw [mean_rat, div_le_iff₀ (sum_share_pos hne)]
  calc (parts.map fun p => share withNaming p.1 * p.2).sum
    _ ≤ (parts.map fun p => share withNaming p.1 * hi).sum :=
      List.sum_le_sum fun p hp => mul_le_mul_of_nonneg_left (hhi p hp) (share_pos withNaming p.1).le
    _ = hi * (parts.map fun p => share withNaming p.1).sum := by rw [List.sum_map_mul_right, mul_comm]

/-- The mean of the same components with greater values is not less. -/
theorem mean_le_mean (hne : parts' ≠ []) (h : List.Forall₂ (Component.Rel (· ≤ ·)) parts parts') :
    mean withNaming parts ≤ mean withNaming parts' := by
  have hweights :
      parts.map (fun p => (share withNaming p.1 : Rat)) = parts'.map fun p => share withNaming p.1 := by
    rw [← List.forall₂_eq_eq_eq]
    exact List.rel_map (fun p q hpq => congrArg (share withNaming) hpq.component) h
  have hproducts : List.Forall₂ (· ≤ ·) (parts.map fun p => share withNaming p.1 * p.2)
      (parts'.map fun p => share withNaming p.1 * p.2) := by
    refine List.rel_map (fun p q hpq => ?_) h
    rw [← hpq.component]
    exact mul_le_mul_of_nonneg_left hpq.value (share_pos withNaming p.1).le
  rw [mean_rat, mean_rat, hweights]
  exact div_le_div_of_nonneg_right hproducts.sum_le_sum (sum_share_pos hne).le

end Stats

/-! ### Divisions -/

/-- A rational number, or nothing after a division by zero. -/
def Checked := Option Rat

namespace Checked

def lift (f : Rat → Rat → Rat) (x y : Option Rat) : Checked := x.bind fun a => y.map (f a)

def quotient (a b : Rat) : Checked := if b = 0 then none else some (a / b)

/-- Comparisons hold where there is no number, so that `atLeast` and `atMost` do not hide it. -/
def isLess : Option Rat → Option Rat → Bool
  | some a, some b => decide (a < b)
  | _, _ => true

instance : ScoreNumber Checked where
  add := lift (· + ·)
  sub := lift (· - ·)
  mul := lift (· * ·)
  div x y := Option.bind x fun a => Option.bind y (quotient a)
  ratio a b := quotient a b
  less := isLess
  roundHalfUp x := roundHalfUp (Option.getD x 0)

/-- The number is there, so none of the divisions that led to it was by zero. -/
def Exact (x : Checked) (v : Rat) : Prop := x = some v

variable {x y : Checked} {v w : Rat}

theorem Exact.add (hx : x.Exact v) (hy : y.Exact w) : (x + y).Exact (v + w) := by
  cases hx
  cases hy
  rfl

theorem Exact.sub (hx : x.Exact v) (hy : y.Exact w) : (x - y).Exact (v - w) := by
  cases hx
  cases hy
  rfl

theorem Exact.mul (hx : x.Exact v) (hy : y.Exact w) : (x * y).Exact (v * w) := by
  cases hx
  cases hy
  rfl

theorem Exact.div (hx : x.Exact v) (hy : y.Exact w) (hw : w ≠ 0) : (x / y).Exact (v / w) := by
  cases hx
  cases hy
  exact if_neg hw

theorem exact_ratio (a : Int) {b : Int} (hb : b ≠ 0) : (ratio a b : Checked).Exact (ratio a b) :=
  if_neg (Int.cast_ne_zero.2 hb)

theorem exact_ofInt (n : Int) : (ofInt n : Checked).Exact (ofInt n) := exact_ratio n one_ne_zero

theorem Exact.less (hx : x.Exact v) (hy : y.Exact w) : less x y = less v w := by
  cases hx
  cases hy
  rfl

theorem Exact.roundHalfUp (hx : x.Exact v) : roundHalfUp x = ScoreNumber.roundHalfUp v := by
  cases hx
  rfl

theorem Exact.atLeast (hx : x.Exact v) (hy : y.Exact w) : (atLeast x y).Exact (atLeast v w) := by
  rw [ScoreNumber.atLeast, ScoreNumber.atLeast, hx.less hy]
  split
  · exact hy
  · exact hx

theorem Exact.atMost (hx : x.Exact v) (hy : y.Exact w) : (atMost x y).Exact (atMost v w) := by
  rw [ScoreNumber.atMost, ScoreNumber.atMost, hy.less hx]
  split
  · exact hy
  · exact hx

end Checked

namespace Stats

open Checked

theorem exact_penalized (bad : Int) {total : Int} (h : total ≠ 0) :
    (penalized bad total : Checked).Exact (penalized bad total) :=
  (exact_ofInt 0).atLeast ((exact_ofInt 100).sub ((exact_ratio bad h).mul (exact_ofInt 200)))

theorem exact_coverage (commented total : Int) :
    Metric.Rel Exact (coverage commented total) (coverage commented total) := by
  rw [coverage, coverage]
  split_ifs with h
  · exact .lacking _
  · exact .computed ((exact_ratio commented h).mul (exact_ofInt 100))

/-- Each division by a total stands behind a check of it. -/
theorem exact_components (s : Stats) : Rel Exact s s where
  tagEfficiency := by
    rw [tagEfficiency, tagEfficiency]
    split_ifs with _ h
    · exact .lacking _
    · exact .computed (exact_ofInt 100)
    · exact .computed (exact_penalized s.unusedTags h)
  documentation := by
    have hcoverage := exact_coverage s.commentedRungs s.totalRungs
    rw [documentation, documentation]
    generalize (coverage s.commentedRungs s.totalRungs : Metric Checked) = m at hcoverage ⊢
    generalize (coverage s.commentedRungs s.totalRungs : Metric Rat) = m' at hcoverage ⊢
    cases hcoverage with
    | computed h =>
      refine .computed ?_
      rw [h.roundHalfUp]
      exact exact_ofInt _
    | lacking why => exact .lacking why
  tagUsage := by
    rw [tagUsage, tagUsage]
    split_ifs with _ h
    · exact .lacking _
    · exact .computed (exact_ofInt 0)
    · exact .computed ((exact_ofInt 100).atMost ((exact_ratio s.totalReferences h).mul (exact_ofInt 20)))
  naming := by
    rw [naming, naming]
    split_ifs with h
    · exact .lacking _
    · exact .computed (exact_penalized s.namingViolations h)

theorem exact_total {l : List Checked} {m : List Rat} (h : List.Forall₂ Exact l m) : (total l).Exact (total m) := by
  have hfold : ∀ {x : Checked} {v : Rat}, x.Exact v → (l.foldl (· + ·) x).Exact (m.foldl (· + ·) v) := by
    induction h with
    | nil => exact id
    | cons hab _ ih => exact fun hx => ih (hx.add hab)
  exact hfold (exact_ofInt 0)

/-- The sum of the weights by which a mean is divided is not zero. -/
theorem exact_mean (withNaming : Bool) {parts : List (Component × Checked)} {parts' : List (Component × Rat)}
    (hne : parts' ≠ []) (h : List.Forall₂ (Component.Rel Exact) parts parts') :
    (mean withNaming parts).Exact (mean withNaming parts') := by
  have hshare (c : Component) : (share withNaming c : Checked).Exact (share withNaming c) :=
    exact_ratio _ (by decide)
  refine (exact_total (List.rel_map (fun p q hpq => ?products) h)).div
    (exact_total (List.rel_map (fun p q hpq => ?weights) h)) ?sum
  case products =>
    rw [hpq.component]
    exact (hshare q.1).mul hpq.value
  case weights =>
    rw [hpq.component]
    exact hshare q.1
  case sum =>
    rw [total_rat]
    exact (sum_share_pos hne).ne'

theorem exact_overall (s : Stats) (withNaming : Bool) :
    Metric.Rel Exact (s.overall withNaming) (s.overall withNaming) := by
  refine (exact_components s).overall fun parts parts' hne hparts => ?_
  exact (exact_ofInt 0).atLeast ((exact_ofInt 100).atMost (exact_mean withNaming hne hparts))

end Stats

end LadderAtlas.Health
