import LadderAtlas.Proofs.L5k.FirstBlock
import LadderAtlas.Proofs.L5k.Names
import LadderAtlas.Proofs.L5k.TagBlock
import LadderAtlas.Proofs.Text.Lines

/-!
# Cut files

A file that is cut off before its first controller is closed is never read (`ofL5k_cut`). If what is left of it
states a revision, it is the one that the whole file states, since a revision ends with the first semicolon
after it (`revision?_append`). So the cut is told by the blocks.
-/

namespace LadderAtlas

namespace L5k
open Text
open Ladder (IsBlankText)

/-! ### The revision of a beginning -/

variable {q r : List Char}

/-- A statement of a revision, without its semicolon. -/
inductive StatesRevision (r : List Char) : List Char → Prop
  | intro {b₁ b₂ b₃ b₄ : List Char} (h₁ : IsBlankText b₁) (h₂ : IsBlankText b₂) (h₃ : IsBlankText b₃)
      (h₄ : IsBlankText b₄) (hr : r ≠ []) (hsolid : ∀ c ∈ r, isBlank c = false ∧ c ≠ ';') :
      StatesRevision r (b₁ ++ ("IE_VER".toList ++ (b₂ ++ ([':', '='] ++ (b₃ ++ (r ++ b₄))))))

theorem StatesRevision.semicolon_notMem {s : List Char} (h : StatesRevision r s) : ';' ∉ s := by
  obtain ⟨h₁, h₂, h₃, h₄, -, hsolid⟩ := h
  intro hm
  simp only [List.mem_append] at hm
  rcases hm with hm | hm | hm | hm | hm | hm | hm
  · exact List.count_eq_zero.1 (count_blank h₁) hm
  · exact absurd hm (by decide)
  · exact List.count_eq_zero.1 (count_blank h₂) hm
  · exact absurd hm (by decide)
  · exact List.count_eq_zero.1 (count_blank h₃) hm
  · exact (hsolid ';' hm).2 rfl
  · exact List.count_eq_zero.1 (count_blank h₄) hm

theorem exists_trimLeft (s : List Char) : ∃ b, IsBlankText b ∧ s = b ++ trimLeft s :=
  ⟨s.takeWhile isBlank, fun c hc => List.all_eq_true.1 List.all_takeWhile c hc, List.takeWhile_append_dropWhile.symm⟩

theorem afterPrefix?_eq_some_iff {lead s : List Char} : afterPrefix? lead s = some r ↔ s = lead ++ r := by
  induction lead generalizing s with
  | nil => exact Option.some_inj
  | cons c lead ih =>
    cases s with
    | nil => exact iff_of_false (by simp [afterPrefix?]) (by simp)
    | cons d s =>
      rw [afterPrefix?]
      by_cases hcd : c = d
      · rw [if_pos hcd, ih, hcd, List.cons_append, List.cons_inj_right]
      · rw [if_neg hcd]
        exact iff_of_false (by simp) fun he => hcd (List.cons.inj he).1.symm

theorem afterPrefix?_gap {lead b : List Char} (hlead : ∃ c t, lead = c :: t ∧ isBlank c = false) (hb : IsBlankText b)
    (s : List Char) : afterPrefix? lead (trimLeft (b ++ (lead ++ s))) = some s := by
  obtain ⟨c, t, rfl, hc⟩ := hlead
  rw [trimLeft_blank_append hb, List.cons_append, trimLeft_cons hc]
  exact afterPrefix?_eq_some_iff.2 rfl

theorem exists_states_of_revisionAt? {s : List Char} (h : revisionAt? s = some r) :
    ∃ a rest, StatesRevision r a ∧ s = a ++ ';' :: rest := by
  rw [revisionAt?] at h
  obtain ⟨s₁, hs₁, h⟩ := Option.bind_eq_some_iff.1 h
  obtain ⟨s₂, hs₂, h⟩ := Option.bind_eq_some_iff.1 h
  rw [afterPrefix?_eq_some_iff] at hs₁ hs₂
  obtain ⟨b₁, h₁, he₁⟩ := exists_trimLeft s
  obtain ⟨b₂, h₂, he₂⟩ := exists_trimLeft s₁
  obtain ⟨b₃, h₃, he₃⟩ := exists_trimLeft s₂
  cases hspan : (trimLeft s₂).span fun c => !isBlank c && c ≠ ';' with
  | mk revision s₃ =>
    obtain ⟨b₄, h₄, he₄⟩ := exists_trimLeft s₃
    obtain ⟨hs₃, hsolid, -⟩ := span_spec hspan
    rw [hspan] at h
    dsimp only at h
    split at h
    · cases h
    · rename_i hend
      obtain rfl := Option.some.inj h
      simp only [Bool.or_eq_true, not_or, List.isEmpty_iff, decide_eq_true_eq, ne_eq, not_not] at hend
      obtain ⟨rest, hrest⟩ := List.head?_eq_some_iff.1 hend.2
      refine ⟨_, rest, .intro h₁ h₂ h₃ h₄ hend.1 (by simpa using hsolid), ?_⟩
      rw [he₁, hs₁, he₂, hs₂, he₃, hs₃, he₄, hrest]
      simp

theorem span_solid {b rest : List Char} (hr : ∀ c ∈ r, isBlank c = false ∧ c ≠ ';') (hb : IsBlankText b) :
    (r ++ (b ++ ';' :: rest)).span (fun c => !isBlank c && c ≠ ';') = (r, b ++ ';' :: rest) := by
  refine span_append (by simpa using hr) fun x t he => ?_
  cases b with
  | nil =>
    obtain ⟨rfl, -⟩ := List.cons.inj he
    decide
  | cons c b =>
    obtain ⟨rfl, -⟩ := List.cons.inj he
    rw [hb c (by simp)]
    rfl

theorem StatesRevision.revisionAt? {a : List Char} (h : StatesRevision r a) (rest : List Char) :
    revisionAt? (a ++ ';' :: rest) = some r := by
  obtain ⟨h₁, h₂, h₃, h₄, hr, hsolid⟩ := h
  rename_i b₁ b₂ b₃ b₄
  obtain ⟨c, r, rfl⟩ := List.exists_cons_of_ne_nil hr
  have htrim : trimLeft (b₃ ++ (c :: r ++ (b₄ ++ ';' :: rest))) = c :: r ++ (b₄ ++ ';' :: rest) :=
    (trimLeft_blank_append h₃ _).trans (trimLeft_cons (hsolid c (by simp)).1 _)
  have hend : (trimLeft (b₄ ++ ';' :: rest)).head? = some ';' := by
    rw [trimLeft_blank_append h₄, trimLeft_cons (by decide)]
    rfl
  have hword : ∃ c t, "IE_VER".toList = c :: t ∧ isBlank c = false := ⟨'I', "E_VER".toList, by decide, by decide⟩
  have hassign : ∃ c t, [':', '='] = c :: t ∧ isBlank c = false := ⟨':', ['='], rfl, by decide⟩
  simp only [List.append_assoc]
  rw [L5k.revisionAt?, afterPrefix?_gap hword h₁, Option.bind_eq_bind, Option.bind_some, afterPrefix?_gap hassign h₂,
    Option.bind_some, htrim, span_solid hsolid h₄]
  simp [hend]

/-- A revision is read where one is stated, and its semicolon follows. -/
theorem revisionAt?_eq_some_iff (s : List Char) : revisionAt? s = some r ↔
    ∃ a rest, StatesRevision r a ∧ s = a ++ ';' :: rest := by
  refine ⟨exists_states_of_revisionAt?, ?_⟩
  rintro ⟨a, rest, ha, rfl⟩
  exact ha.revisionAt? rest

/-- What follows the first semicolon does not change the revision. -/
theorem revisionAt?_append (hq : ';' ∈ q) (t : List Char) : revisionAt? (q ++ t) = revisionAt? q := by
  refine Option.ext fun r => ?_
  rw [revisionAt?_eq_some_iff, revisionAt?_eq_some_iff]
  constructor
  · rintro ⟨a, rest, ha, he⟩
    rcases List.append_eq_append_iff.1 he with ⟨u, rfl, -⟩ | ⟨u, rfl, hu⟩
    · exact absurd (List.mem_append_left u hq) ha.semicolon_notMem
    · cases u with
      | nil => exact absurd (by simpa using hq) ha.semicolon_notMem
      | cons c u =>
        obtain ⟨rfl, -⟩ := List.cons.inj hu
        exact ⟨a, u, ha, rfl⟩
  · rintro ⟨a, rest, ha, rfl⟩
    exact ⟨a, rest ++ t, ha, by simp⟩

theorem semicolon_of_revision? {atStart : Bool} {s : List Char} (h : revision? atStart s = some r) : ';' ∈ s := by
  induction s generalizing atStart with
  | nil => cases h
  | cons c s ih =>
    rw [revision?] at h
    rcases Option.or_eq_some_iff.1 h with hfirst | ⟨-, hrest⟩
    · cases atStart with
      | false => cases hfirst
      | true =>
        obtain ⟨a, rest, -, he⟩ := (revisionAt?_eq_some_iff _).1 hfirst
        rw [he]
        simp
    · exact List.mem_cons_of_mem c (ih hrest)

theorem revision?_append {atStart : Bool} (h : revision? atStart q = some r) (t : List Char) :
    revision? atStart (q ++ t) = some r := by
  induction q generalizing atStart with
  | nil => cases h
  | cons c q ih =>
    have hfirst : revisionAt? (c :: q ++ t) = revisionAt? (c :: q) := revisionAt?_append (semicolon_of_revision? h) t
    rw [revision?] at h
    rw [List.cons_append, revision?, ← List.cons_append, hfirst]
    rcases Option.or_eq_some_iff.1 h with hsome | ⟨hnone, hrest⟩
    · rw [hsome, Option.some_or]
    · rw [hnone, Option.none_or]
      exact ih hrest

/-- A beginning of a text states a revision that is not refused if the text does. -/
theorem checkRevision_beginning {s : List Char} (hq : q <+: s) {v : Option String} (h : checkRevision s = .ok v) :
    ∃ v, checkRevision q = .ok v := by
  obtain ⟨t, rfl⟩ := hq
  cases hrevision : revision? true q with
  | none => exact ⟨none, by rw [checkRevision, hrevision]⟩
  | some r =>
    rw [checkRevision, revision?_append hrevision] at h
    exact ⟨v, by rw [checkRevision, hrevision]; exact h⟩

/-! ### What a cut file lacks -/

/-- A text that is read states no revision that is refused and has a controller. -/
theorem of_ofL5k {s : List Char} {d : Document} (h : (Document.ofL5k s).result = .ok d) :
    (∃ v, checkRevision s = .ok v) ∧ ∃ b bs, Block.collect ["CONTROLLER"] (Text.lines s) = .ok (b :: bs) := by
  by_cases hblank : trim s = []
  · rw [Document.ofL5k, if_pos (by simp [hblank])] at h
    cases h
  · rw [Document.ofL5k, if_neg (by simp [hblank]), Reading.result_bind, Reading.result_ofExcept] at h
    cases hrevision : checkRevision s with
    | error e =>
      rw [hrevision] at h
      cases h
    | ok v =>
      refine ⟨⟨v, rfl⟩, ?_⟩
      rw [hrevision] at h
      change (blocks ["CONTROLLER"] (Text.lines s) >>= _ : Reading Document).result = _ at h
      rw [Reading.result_bind, blocks, Reading.result_ofExcept] at h
      cases hcollect : Block.collect ["CONTROLLER"] (Text.lines s) with
      | error cause =>
        rw [hcollect] at h
        cases h
      | ok bs =>
        cases bs with
        | nil =>
          rw [hcollect] at h
          cases h
        | cons b bs => exact ⟨b, bs, rfl⟩

variable {v : Option String}

theorem ofL5k_blank (hblank : trim q = []) : (Document.ofL5k q).result = .error (.parse .l5k .empty) := by
  rw [Document.ofL5k, if_pos (by simp [hblank])]
  rfl

/-- A text without a controller, or with a block that does not end, is refused. -/
theorem ofL5k_refused (hblank : trim q ≠ []) (hv : checkRevision q = .ok v) {cause : ParseCause}
    (h : Block.collect ["CONTROLLER"] (Text.lines q) = .error cause ∨
      Block.collect ["CONTROLLER"] (Text.lines q) = .ok [] ∧ cause = .missingController) :
    (Document.ofL5k q).result = .error (.parse .l5k cause) := by
  rw [Document.ofL5k, if_neg (by simp [hblank]), Reading.result_bind, Reading.result_ofExcept, hv]
  show (blocks ["CONTROLLER"] (Text.lines q) >>= _ : Reading Document).result = _
  rw [Reading.result_bind, blocks, Reading.result_ofExcept]
  rcases h with herror | ⟨hnone, rfl⟩
  · rw [herror]
    rfl
  · rw [hnone]
    rfl

/-- A text that is read has a first controller, and every beginning of it that ends with a line before the
closing one is refused: as truncated if the line that opens the controller is there or all is blank, and as
malformed otherwise. -/
theorem ofL5k_cut {s : List Char} {d : Document} (h : (Document.ofL5k s).result = .ok d) :
    (∃ f : FirstBlock "CONTROLLER", f.lines = Text.lines s) ∧
    ∀ f : FirstBlock "CONTROLLER", f.lines = Text.lines s → ∀ k ≤ f.closingPlace, ∀ q, q <+: s →
      Text.lines q = (Text.lines s).take k → ∃ cause : ParseCause,
        (Document.ofL5k q).result = .error (.parse .l5k cause) ∧
        cause.sort = if f.before.length < k ∨ trim q = [] then .truncated else .malformed := by
  obtain ⟨⟨v, hv⟩, b, bs, hcollect⟩ := of_ofL5k h
  refine ⟨FirstBlock.exists_of_collect hcollect, fun f hf k hk q hq hlines => ?_⟩
  obtain ⟨w, hw⟩ := checkRevision_beginning hq hv
  rw [← hf] at hlines
  by_cases hblank : trim q = []
  · exact ⟨.empty, ofL5k_blank hblank, by rw [if_pos (.inr hblank)]; rfl⟩
  · by_cases hopened : f.before.length < k
    · obtain ⟨name, hmissing⟩ := f.collect_cut hopened hk
      rw [← hlines] at hmissing
      exact ⟨_, ofL5k_refused hblank hw (.inl hmissing), by rw [if_pos (.inl hopened)]; rfl⟩
    · have hnone := f.collect_before (Nat.le_of_not_lt hopened)
      rw [← hlines] at hnone
      exact ⟨_, ofL5k_refused hblank hw (.inr ⟨hnone, rfl⟩), by rw [if_neg (by simp [hopened, hblank])]; rfl⟩

/-- The lines of a file whose controller has a header of two lines and a controller inside. -/
def nestedLines : List (List Char) :=
  ["IE_VER := 2.19;", "CONTROLLER Pump (Major := 20,", "  Minor := 1)", "CONTROLLER Inner", "END_CONTROLLER",
    "END_CONTROLLER"].map String.toList

def nestedText : List Char := joined ['\n'] nestedLines

def nestedBlock : FirstBlock "CONTROLLER" where
  before := ["IE_VER := 2.19;".toList]
  block := {
    opening := "CONTROLLER Pump (Major := 20,".toList
    header := ["  Minor := 1)".toList]
    body := ["CONTROLLER Inner".toList, "END_CONTROLLER".toList]
    closing := "END_CONTROLLER".toList }
  before_unled := by decide +kernel
  opening := by decide +kernel
  header := by decide +kernel
  header_closed := by decide +kernel
  body := by decide +kernel
  closing := by decide +kernel

theorem ofL5k_cut_nested : (Document.ofL5k nestedText).result.isOk ∧ nestedBlock.lines = Text.lines nestedText ∧
    (∃ cause : ParseCause, (Document.ofL5k (firstLines 5 nestedText)).result = .error (.parse .l5k cause) ∧
      cause.sort = .truncated) ∧
    ∃ cause : ParseCause, (Document.ofL5k (firstLines 1 nestedText)).result = .error (.parse .l5k cause) ∧
      cause.sort = .malformed := by
  have hok : (Document.ofL5k nestedText).result.isOk = true := by decide +kernel
  have hlines : nestedBlock.lines = Text.lines nestedText := by decide +kernel
  have hblank : trim (firstLines 1 nestedText) ≠ [] := by decide +kernel
  refine ⟨hok, hlines, ?_⟩
  cases hd : (Document.ofL5k nestedText).result with
  | error e =>
    rw [hd] at hok
    cases hok
  | ok d =>
    obtain ⟨cause, hcause, hsort⟩ := (ofL5k_cut hd).2 nestedBlock hlines 5 (by decide) (firstLines 5 nestedText)
      (prefix_firstLines 5 nestedText) (lines_firstLines 5 nestedText)
    obtain ⟨cause', hcause', hsort'⟩ := (ofL5k_cut hd).2 nestedBlock hlines 1 (by decide) (firstLines 1 nestedText)
      (prefix_firstLines 1 nestedText) (lines_firstLines 1 nestedText)
    refine ⟨⟨cause, hcause, hsort.trans (if_pos (.inl (by decide)))⟩, cause', hcause', hsort'.trans (if_neg ?_)⟩
    rintro (hopened | hnil)
    · exact absurd hopened (by decide)
    · exact hblank hnil

end L5k

end LadderAtlas
