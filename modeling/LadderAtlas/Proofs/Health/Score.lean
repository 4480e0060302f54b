import LadderAtlas.Proofs.Health.Exact

/-! # Bounds and direction of the score

For counts that are possible (`Valid`) each component is between zero and a hundred (`Valid.inRange`), so the bounds
that the score is kept to never take effect and it is the mean of its components, which is between the least and the
greatest of them (`overall_between`). Where the counts improve no component goes down (`Improves.components`), and
neither does the mean. -/

namespace LadderAtlas.Health

open ScoreNumber

namespace Stats

/-- Counts that are possible: none is negative, and no more tags are unused and no more rungs have a comment than there
are. Of violations there may be more than names. -/
structure Valid (s : Stats) : Prop where
  unusedTags : 0 ≤ s.unusedTags ∧ s.unusedTags ≤ s.totalTags
  commentedRungs : 0 ≤ s.commentedRungs ∧ s.commentedRungs ≤ s.totalRungs
  totalReferences : 0 ≤ s.totalReferences
  namesChecked : 0 ≤ s.namesChecked
  namingViolations : 0 ≤ s.namingViolations

/-- With the same totals and the same data available, nothing got worse: no more tags are unused and no more names
break the rules, no fewer rungs have a comment and no fewer references are made. -/
structure Improves (s t : Stats) : Prop where
  totalTags : t.totalTags = s.totalTags
  totalRungs : t.totalRungs = s.totalRungs
  tagsAvailable : t.tagsAvailable = s.tagsAvailable
  namesChecked : t.namesChecked = s.namesChecked
  unusedTags : t.unusedTags ≤ s.unusedTags
  commentedRungs : s.commentedRungs ≤ t.commentedRungs
  totalReferences : s.totalReferences ≤ t.totalReferences
  namingViolations : t.namingViolations ≤ s.namingViolations

variable {s t : Stats}

theorem Valid.totalTags (h : s.Valid) : 0 ≤ s.totalTags := h.unusedTags.1.trans h.unusedTags.2

theorem Valid.totalRungs (h : s.Valid) : 0 ≤ s.totalRungs := h.commentedRungs.1.trans h.commentedRungs.2

theorem penalized_mem {bad total : Int} (hbad : 0 ≤ bad) (htotal : 0 ≤ total) :
    0 ≤ (penalized bad total : Rat) ∧ (penalized bad total : Rat) ≤ 100 := by
  rw [penalized_rat]
  have hratio := ratio_nonneg hbad htotal
  exact ⟨le_max_left _ _, max_le (by norm_num) (by linarith)⟩

theorem penalized_le_penalized {bad bad' total : Int} (h : bad' ≤ bad) (htotal : 0 ≤ total) :
    (penalized bad total : Rat) ≤ penalized bad' total := by
  rw [penalized_rat, penalized_rat]
  have hratio := ratio_le_ratio h htotal
  exact max_le_max le_rfl (by linarith)

theorem roundHalfUp_le_roundHalfUp {x y : Rat} (h : x ≤ y) : roundHalfUp x ≤ roundHalfUp y :=
  Rat.floor_monotone (add_le_add_left h _)

/-- A percentage is one after rounding as well. -/
theorem roundHalfUp_mem {x : Rat} (h : 0 ≤ x ∧ x ≤ 100) : 0 ≤ roundHalfUp x ∧ roundHalfUp x ≤ 100 := by
  have hfloor : ((roundHalfUp x : Int) : Rat) < (101 : Int) :=
    (Rat.floor_le (x + 1 / 2)).trans_lt (by norm_num; linarith)
  refine ⟨Rat.le_floor_iff.2 ?_, Int.lt_add_one_iff.1 (Int.cast_lt.1 hfloor)⟩
  rw [Int.cast_zero]
  linarith

theorem coverage_mem {commented total : Int} (h : 0 ≤ commented ∧ commented ≤ total) :
    0 ≤ (ratio commented total * ofInt 100 : Rat) ∧ (ratio commented total * ofInt 100 : Rat) ≤ 100 := by
  have htotal := h.1.trans h.2
  have h0 := ratio_nonneg h.1 htotal
  have h1 := ratio_le_one h.2 htotal
  rw [ofInt_rat]
  push_cast
  constructor <;> linarith

/-- Each component that is computed is between zero and a hundred. -/
theorem Valid.inRange (h : s.Valid) : Rel (fun (v _ : Rat) => 0 ≤ v ∧ v ≤ 100) s s where
  tagEfficiency := by
    rw [tagEfficiency]
    split_ifs
    · exact .lacking _
    · exact .computed (by rw [ofInt_rat]; norm_num)
    · exact .computed (penalized_mem h.unusedTags.1 h.totalTags)
  documentation := by
    rw [documentation, coverage]
    split_ifs
    · exact .lacking _
    · have hround := roundHalfUp_mem (coverage_mem h.commentedRungs)
      refine .computed ?_
      rw [ofInt_rat]
      exact ⟨Int.cast_nonneg hround.1, mod_cast hround.2⟩
  tagUsage := by
    rw [tagUsage]
    split_ifs
    · exact .lacking _
    · exact .computed (by rw [ofInt_rat]; norm_num)
    · have hratio := ratio_nonneg h.totalReferences h.totalTags
      refine .computed ?_
      rw [atMost_rat, ofInt_rat, ofInt_rat]
      exact ⟨le_min (by norm_num) (mul_nonneg hratio (by norm_num)), min_le_left _ _⟩
  naming := by
    rw [naming]
    split_ifs
    · exact .lacking _
    · exact .computed (penalized_mem h.namingViolations h.namesChecked)

/-- No component goes down. -/
theorem Improves.components (himp : s.Improves t) (h : s.Valid) : Rel (fun v w : Rat => v ≤ w) s t where
  tagEfficiency := by
    rw [tagEfficiency, tagEfficiency, himp.tagsAvailable, himp.totalTags]
    split_ifs
    · exact .lacking _
    · exact .computed le_rfl
    · exact .computed (penalized_le_penalized himp.unusedTags h.totalTags)
  documentation := by
    rw [documentation, documentation, coverage, coverage, himp.totalRungs]
    split_ifs
    · exact .lacking _
    · have hratio := ratio_le_ratio himp.commentedRungs h.totalRungs
      refine .computed ?_
      rw [ofInt_rat, ofInt_rat, ofInt_rat]
      exact Int.cast_le.2 (roundHalfUp_le_roundHalfUp (mul_le_mul_of_nonneg_right hratio (by norm_num)))
  tagUsage := by
    rw [tagUsage, tagUsage, himp.tagsAvailable, himp.totalTags]
    split_ifs
    · exact .lacking _
    · exact .computed le_rfl
    · have hratio := ratio_le_ratio himp.totalReferences h.totalTags
      refine .computed ?_
      rw [atMost_rat, atMost_rat, ofInt_rat, ofInt_rat]
      exact min_le_min le_rfl (mul_le_mul_of_nonneg_right hratio (by norm_num))
  naming := by
    rw [naming, naming, himp.namesChecked]
    split_ifs
    · exact .lacking _
    · exact .computed (penalized_le_penalized himp.namingViolations h.namesChecked)

/-- The values of the components that are computed. -/
def values (s : Stats) (withNaming : Bool) : List Rat := (s.computable withNaming).map (·.2)

theorem Valid.values_mem (h : s.Valid) {withNaming : Bool} : ∀ v ∈ s.values withNaming, 0 ≤ v ∧ v ≤ 100 :=
  List.forall_mem_map.2 fun p hp => (List.forall₂_same.1 (h.inRange.computable withNaming) p hp).value

theorem computable_eq_nil_iff (withNaming : Bool) :
    (s.computable withNaming : List (Component × Rat)) = [] ↔
      ∀ part ∈ (s.components withNaming : List (Component × Metric Rat)), ∃ why, part.2 = .lacking why := by
  rw [computable, List.filterMap_eq_nil_iff]
  refine forall₂_congr fun part _ => ?_
  obtain ⟨c, m⟩ := part
  cases m <;> simp [Metric.value?]

theorem overall_lacking_iff (withNaming : Bool) :
    (∃ why, (s.overall withNaming : Metric Rat) = .lacking why) ↔
      ∀ part ∈ (s.components withNaming : List (Component × Metric Rat)), ∃ why, part.2 = .lacking why := by
  rw [← computable_eq_nil_iff, ← List.isEmpty_iff, overall_eq]
  split
  · rename_i h
    exact iff_of_true ⟨_, rfl⟩ h
  · rename_i h
    exact iff_of_false (fun ⟨_, hlacking⟩ => nomatch hlacking) h

theorem overall_between (h : s.Valid) {withNaming : Bool} {v : Rat} (hv : s.overall withNaming = .computed v) :
    ∃ hne : s.values withNaming ≠ [], (s.values withNaming).min hne ≤ v ∧ v ≤ (s.values withNaming).max hne := by
  rw [overall_eq] at hv
  split_ifs at hv with hempty
  have hparts : (s.computable withNaming : List (Component × Rat)) ≠ [] := mt List.isEmpty_iff.2 hempty
  have hne : s.values withNaming ≠ [] := mt List.map_eq_nil_iff.1 hparts
  have hmin : (s.values withNaming).min hne ≤ mean withNaming (s.computable withNaming) :=
    le_mean hparts fun p hp => List.min_le_of_mem (List.mem_map_of_mem hp)
  have hmax : mean withNaming (s.computable withNaming) ≤ (s.values withNaming).max hne :=
    mean_le hparts fun p hp => List.le_max_of_mem (List.mem_map_of_mem hp)
  -- so the mean is between zero and a hundred itself
  have h0 := (h.values_mem _ (List.min_mem hne)).1.trans hmin
  have h100 := hmax.trans (h.values_mem _ (List.max_mem hne)).2
  injection hv with hv
  rw [bounded_rat, min_eq_right h100, max_eq_right h0] at hv
  rw [← hv]
  exact ⟨hne, hmin, hmax⟩

theorem Improves.overall (himp : s.Improves t) (h : s.Valid) (withNaming : Bool) :
    Metric.Rel (fun v w : Rat => v ≤ w) (s.overall withNaming) (t.overall withNaming) := by
  refine (himp.components h).overall fun parts parts' hne hparts => ?_
  rw [bounded_rat, bounded_rat]
  exact max_le_max le_rfl (min_le_min le_rfl (mean_le_mean hne hparts))

/-- What the score is like over the rational numbers. -/
structure Sound (s : Stats) (withNaming : Bool) : Prop where
  /-- There is no division by zero, in what is rounded for the documentation either. -/
  exactCoverage : Metric.Rel Checked.Exact (coverage s.commentedRungs s.totalRungs)
    (coverage s.commentedRungs s.totalRungs)
  exactComponents : Rel Checked.Exact s s
  exactOverall : Metric.Rel Checked.Exact (s.overall withNaming) (s.overall withNaming)
  inRange : ∀ c v, (c, .computed v) ∈ (s.components withNaming : List (Component × Metric Rat)) → 0 ≤ v ∧ v ≤ 100
  lacking_iff : (∃ why, (s.overall withNaming : Metric Rat) = .lacking why) ↔
    ∀ part ∈ (s.components withNaming : List (Component × Metric Rat)), ∃ why, part.2 = .lacking why
  between : ∀ v, s.overall withNaming = .computed v →
    ∃ hne : s.values withNaming ≠ [], (s.values withNaming).min hne ≤ v ∧ v ≤ (s.values withNaming).max hne
  direction : ∀ t, s.Improves t →
    Metric.Rel (fun v w : Rat => v ≤ w) (s.overall withNaming) (t.overall withNaming)

/-- The score is sound for all counts that are possible, with and without the naming rules. -/
theorem score_sound (s : Stats) (h : s.Valid) (withNaming : Bool) : s.Sound withNaming where
  exactCoverage := exact_coverage s.commentedRungs s.totalRungs
  exactComponents := exact_components s
  exactOverall := exact_overall s withNaming
  inRange c v hv := by
    have hrel := (List.forall₂_same.1 (h.inRange.components withNaming) _ hv).value
    cases hrel with
    | computed hmem => exact hmem
  lacking_iff := overall_lacking_iff withNaming
  between _ := overall_between h
  direction _ himp := himp.overall h withNaming

theorem score_sound_scenario :
    let s : Stats := { totalTags := 10, unusedTags := 3, totalRungs := 5, commentedRungs := 3, totalReferences := 40 }
    let t : Stats := { s with unusedTags := 2, commentedRungs := 4 }
    s.Valid ∧ s.Improves t ∧ s.Sound false := by
  intro s t
  have hvalid : s.Valid := ⟨by decide, by decide, by decide, by decide, by decide⟩
  have himp : s.Improves t := ⟨rfl, rfl, rfl, rfl, by decide, by decide, by decide, by decide⟩
  exact ⟨hvalid, himp, score_sound s hvalid false⟩

example :
    let s : Stats := { totalTags := 10, unusedTags := 3, totalRungs := 5, commentedRungs := 3, totalReferences := 40 }
    (s.overall false : Metric Rat).value? = some 57 := by decide +kernel

end Stats

end LadderAtlas.Health
