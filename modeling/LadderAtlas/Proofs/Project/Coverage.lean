import LadderAtlas.Project
import LadderAtlas.Proofs.Order
import LadderAtlas.Proofs.Text.Lines
import Mathlib.Algebra.Ring.Nat

/-! # Comment coverage by program and by routine

The rungs of all snapshots are counted once for each program and once for each routine of a program. Counting a
rung adds it to one row of either kind (`sum_countP_alter`), so the rows of each kind account for every rung
(`sum_rows`): those of a program's routines add up to the program, and those of the programs to the summary
(`coverage_partitions`). -/

namespace LadderAtlas

/-- A rung with a comment that is not blank. -/
def Rung.IsCommented (r : Rung) : Prop :=
  ∃ comment, r.comment = some comment ∧ ∃ c ∈ comment.toList, Text.isBlank c = false

theorem Rung.hasComment_iff (r : Rung) : r.hasComment = true ↔ r.IsCommented := by
  simp [hasComment, IsCommented, Text.trim_eq_nil_iff, Option.any_eq_true]

instance (r : Rung) : Decidable r.IsCommented := decidable_of_iff _ r.hasComment_iff

/-- What a row is about. -/
def Rung.routineKey (r : Rung) : String × String := (r.programName, r.routineName)

namespace Coverage

/-- The counts of some rungs. -/
structure Counts (c : Coverage) (rungs : List Rung) : Prop where
  total : c.total = rungs.length
  commented : c.commented = rungs.countP (·.IsCommented)

/-- Each count is the sum of those of some other rows. -/
structure IsSum (c : Coverage) (rows : List Coverage) : Prop where
  total : c.total = (rows.map (·.total)).sum
  commented : c.commented = (rows.map (·.commented)).sum

theorem counts_ofRungs (rungs : List Rung) : (ofRungs rungs).Counts rungs where
  total := rfl
  commented := List.countP_congr fun r _ => r.hasComment_iff.trans decide_eq_true_iff.symm

theorem Counts.commented_le {c : Coverage} {rungs : List Rung} (h : c.Counts rungs) : c.commented ≤ c.total := by
  rw [h.commented, h.total]
  exact List.countP_le_length

/-- There is a percentage unless there are no rungs. -/
theorem percent_eq_none_iff (c : Coverage) : c.percent = none ↔ c.total = 0 := by
  rw [percent, Option.map_eq_none_iff, Health.Stats.coverage]
  split
  · rename_i h
    exact iff_of_true rfl (Int.ofNat_eq_zero.1 h)
  · rename_i h
    exact iff_of_false (fun hv => by cases hv) fun ht => h (by rw [ht]; rfl)

end Coverage

/-! ### Counting in groups -/

section
variable {κ α : Type} [DecidableEq κ]

/-- An item adds to the count of one group, that of its key. -/
theorem sum_countP_alter (q : κ → Bool) (p : α → Bool) (m : List (κ × List α)) (k : κ) (a : α) :
    (((Keyed.alter m k [] (· ++ [a])).filter (q ·.1)).map (·.2.countP p)).sum =
      ((m.filter (q ·.1)).map (·.2.countP p)).sum + if q k then [a].countP p else 0 := by
  induction m with
  | nil => cases hq : q k <;> simp [Keyed.alter, Keyed.put, Keyed.get?, hq]
  | cons g m ih =>
    obtain ⟨k₁, l⟩ := g
    by_cases h : k₁ = k
    · subst h
      cases hq : q k₁
      · simp [Keyed.alter, Keyed.put, Keyed.get?, hq]
      · simp [Keyed.alter, Keyed.put, Keyed.get?, hq]
        omega
    · have halter : Keyed.alter ((k₁, l) :: m) k [] (· ++ [a]) = (k₁, l) :: Keyed.alter m k [] (· ++ [a]) := by
        simp [Keyed.alter, Keyed.put, Keyed.get?, h]
      rw [halter, List.filter_cons, List.filter_cons]
      cases hq : q k₁
      · exact ih
      · simp only [if_true, List.map_cons, List.sum_cons, ih]
        omega

/-- The groups with some of the keys count the items with these keys. -/
theorem sum_countP_groups (key : α → κ) (q : κ → Bool) (p : α → Bool) (l : List α) :
    (((Keyed.groups key l).filter (q ·.1)).map (·.2.countP p)).sum = (l.filter (q <| key ·)).countP p := by
  have hfold : ∀ m : List (κ × List α),
      (((l.foldl (fun m a => Keyed.alter m (key a) [] (· ++ [a])) m).filter (q ·.1)).map (·.2.countP p)).sum =
        ((m.filter (q ·.1)).map (·.2.countP p)).sum + (l.filter (q <| key ·)).countP p := by
    induction l with
    | nil => simp
    | cons a l ih =>
      intro m
      rw [List.foldl_cons, ih, sum_countP_alter, List.filter_cons]
      cases q (key a) with
      | false => simp
      | true =>
        have hcons : [a] ++ l.filter (q <| key ·) = a :: l.filter (q <| key ·) := rfl
        rw [if_pos rfl, if_pos rfl, ← hcons, List.countP_append]
        omega
  exact (hfold []).trans (by simp)

end

namespace CoverageReport

section
variable {κ : Type} [DecidableEq κ] {key : Rung → κ} {le : κ → κ → Bool} {rungs : List Rung}

/-- There is a row for each key, with the counts of the rungs that have it. -/
theorem mem_rows_iff (row : κ × Coverage) :
    row ∈ rows key le rungs ↔ row.1 ∈ rungs.map key ∧ row.2 = .ofRungs (rungs.filter (key · = row.1)) := by
  obtain ⟨k, c⟩ := row
  rw [rows, List.mem_mergeSort, List.mem_map]
  simp only [Prod.exists, ← Keyed.get?_eq_some_iff (Keyed.nodup_keys_groups key rungs), Keyed.get?_groups,
    Prod.mk.injEq]
  constructor
  · rintro ⟨k, l, hl, rfl, rfl⟩
    obtain ⟨hk, hl⟩ := Option.ite_none_right_eq_some.1 hl
    exact ⟨hk, congrArg Coverage.ofRungs (Option.some.inj hl).symm⟩
  · rintro ⟨hk, hc⟩
    exact ⟨k, _, if_pos hk, rfl, hc.symm⟩

theorem keys_rows (k : κ) : k ∈ (rows key le rungs).map (·.1) ↔ ∃ r ∈ rungs, key r = k := by
  rw [List.mem_map, ← List.mem_map (f := key)]
  constructor
  · rintro ⟨row, hrow, rfl⟩
    exact ((mem_rows_iff row).1 hrow).1
  · intro hk
    exact ⟨(k, .ofRungs (rungs.filter (key · = k))), (mem_rows_iff _).2 ⟨hk, rfl⟩, rfl⟩

theorem pairwise_rows (h : IsOrder le) : (rows key le rungs).Pairwise fun a b => le a.1 b.1 = true ∧ a.1 ≠ b.1 := by
  have hsorted : (rows key le rungs).Pairwise fun a b => le a.1 b.1 = true := by
    have htrans : ∀ a b c : κ × Coverage, le a.1 b.1 = true → le b.1 c.1 = true → le a.1 c.1 = true :=
      fun _ _ _ => h.trans
    exact List.pairwise_mergeSort htrans (fun a b => h.total a.1 b.1) _
  have hkeys : ((rows key le rungs).map (·.1)).Nodup := by
    refine ((List.mergeSort_perm _ _).map _).nodup_iff.2 ?_
    have hnodup := Keyed.nodup_keys_groups key rungs
    rwa [← Keyed.keys_mapValues (Keyed.groups key rungs) Coverage.ofRungs] at hnodup
  exact hsorted.and (List.pairwise_map.1 hkeys)

/-- The rows with some of the keys count the rungs with these keys. -/
theorem sum_rows (q : κ → Bool) {count : Coverage → Nat} {p : Rung → Bool}
    (hcount : ∀ l, count (.ofRungs l) = l.countP p) :
    (((rows key le rungs).filter (q ·.1)).map (count ·.2)).sum = (rungs.filter (q <| key ·)).countP p := by
  have hperm (l : List (κ × Coverage)) (le' : κ × Coverage → κ × Coverage → Bool) :=
    (((List.mergeSort_perm l le').filter (q ·.1)).map (count ·.2)).sum_nat
  rw [rows, hperm, List.filter_map, List.map_map, ← sum_countP_groups]
  exact congrArg List.sum (List.map_congr_left fun g _ => hcount g.2)

theorem isSum_rows (key : Rung → κ) (q : κ → Bool) :
    (Coverage.ofRungs (rungs.filter (q <| key ·))).IsSum (((rows key le rungs).filter (q ·.1)).map (·.2)) where
  total := by
    have hlength (l : List Rung) : l.length = l.countP fun _ => true := (congrFun List.countP_true l).symm
    rw [List.map_map]
    exact (hlength _).trans (sum_rows q hlength).symm
  commented := by
    rw [List.map_map]
    exact (sum_rows q fun l => rfl).symm

end

/-- What a report on the comments of some rungs says: its rows stand for the programs and the routines of these
rungs and ascend strictly, each row counts its own rungs, and the counts of the routines add up to those of their
program, as those of the programs do to the summary. -/
structure Partitions (r : CoverageReport) (rungs : List Rung) : Prop where
  programsAscend : r.programs.Pairwise fun a b => a.1 < b.1
  routinesAscend : r.routines.Pairwise fun a b => PairLt a.1 b.1
  programs : ∀ name, name ∈ r.programs.map (·.1) ↔ ∃ rung ∈ rungs, rung.programName = name
  routines : ∀ key, key ∈ r.routines.map (·.1) ↔ ∃ rung ∈ rungs, (rung.programName, rung.routineName) = key
  summaryCounts : r.summary.Counts rungs
  programCounts : ∀ row ∈ r.programs, row.2.Counts (rungs.filter (·.programName = row.1))
  routineCounts : ∀ row ∈ r.routines,
    row.2.Counts (rungs.filter fun rung => (rung.programName, rung.routineName) = row.1)
  programSums : ∀ row ∈ r.programs, row.2.IsSum ((r.routines.filter (·.1.1 = row.1)).map (·.2))
  summarySum : r.summary.IsSum (r.programs.map (·.2))
  sound : ∀ c ∈ r.summary :: (r.programs.map (·.2) ++ r.routines.map (·.2)),
    c.commented ≤ c.total ∧ (c.percent = none ↔ c.total = 0)

theorem partitions_ofRungs (rungs : List Rung) : (ofRungs rungs).Partitions rungs := by
  have hcounts {κ : Type} [DecidableEq κ] {key : Rung → κ} {le : κ → κ → Bool} :
      ∀ row ∈ rows key le rungs, row.2.Counts (rungs.filter (key · = row.1)) := by
    intro row hrow
    rw [((mem_rows_iff row).1 hrow).2]
    exact Coverage.counts_ofRungs _
  have hsound {c : Coverage} {l : List Rung} (hc : c.Counts l) :
      c.commented ≤ c.total ∧ (c.percent = none ↔ c.total = 0) :=
    ⟨hc.commented_le, c.percent_eq_none_iff⟩
  refine {
    programsAscend := (pairwise_rows isOrder_textLe).imp fun h => lt_of_textLe h.1 h.2
    routinesAscend :=
      (pairwise_rows (isOrder_pairLe isOrder_textLe isOrder_textLe)).imp fun h => pairLt_of_pairLe h.1 h.2
    programs := keys_rows
    routines := keys_rows
    summaryCounts := Coverage.counts_ofRungs rungs
    programCounts := hcounts
    routineCounts := hcounts
    programSums := fun row hrow => ?programSums
    summarySum := ?summarySum
    sound := fun c hc => ?sound }
  case programSums =>
    rw [((mem_rows_iff row).1 hrow).2]
    exact isSum_rows Rung.routineKey fun k => decide (k.1 = row.1)
  case summarySum =>
    have hall : (Coverage.ofRungs (rungs.filter fun _ => true)).IsSum
        (((ofRungs rungs).programs.filter fun _ => true).map (·.2)) :=
      isSum_rows Rung.programName fun _ => true
    rwa [List.filter_true, List.filter_true] at hall
  case sound =>
    rcases List.mem_cons.1 hc with rfl | hc
    · exact hsound (Coverage.counts_ofRungs rungs)
    rcases List.mem_append.1 hc with hc | hc
    all_goals
      obtain ⟨row, hrow, rfl⟩ := List.mem_map.1 hc
      exact hsound (hcounts row hrow)

end CoverageReport

/-- The coverage of a project is about the rungs of all of its snapshots together. -/
theorem coverage_partitions (p : Project) : p.coverage.Partitions (p.snapshots.flatMap (·.document.rungs)) :=
  CoverageReport.partitions_ofRungs p.rungs

end LadderAtlas
