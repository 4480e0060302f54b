import LadderAtlas.L5k.Declaration
import LadderAtlas.Proofs.L5k.Statements
import Mathlib.Data.List.TakeDrop

/-! # Names of declarations

A statement is read as an alias if it has the form of one, and only then (`alias?_of_form`, `form_of_alias?`).
Otherwise its name is what stands before its first colon (`typed?_of_colon`). -/

namespace LadderAtlas.L5k
open Text
open Ladder (IsBlankText exists_trim trim_surrounded)

/-- A text that is not empty and has no blanks. -/
structure IsRun (s : List Char) : Prop where
  ne_nil : s ≠ []
  solid : ∀ c ∈ s, isBlank c = false

/-- Blanks, at least one. -/
structure IsGap (s : List Char) : Prop where
  ne_nil : s ≠ []
  blank : IsBlankText s

instance (s : List Char) : Decidable (IsRun s) :=
  have := List.decidableBAll (fun c => isBlank c = false) s
  decidable_of_iff (s ≠ [] ∧ ∀ c ∈ s, isBlank c = false) ⟨fun h => ⟨h.1, h.2⟩, fun h => ⟨h.1, h.2⟩⟩

instance (s : List Char) : Decidable (IsGap s) :=
  decidable_of_iff (s ≠ [] ∧ IsBlankText s) ⟨fun h => ⟨h.1, h.2⟩, fun h => ⟨h.1, h.2⟩⟩

theorem IsRun.trim_eq {s : List Char} (h : IsRun s) : trim s = s := by
  obtain ⟨b, a, hb, ha, hs⟩ := exists_trim s
  have hnil : ∀ t : List Char, IsBlankText t → (∀ c ∈ t, c ∈ s) → t = [] := by
    intro t ht hmem
    refine List.eq_nil_iff_forall_not_mem.2 fun c hc => ?_
    have hsolid := h.solid c (hmem c hc)
    rw [ht c hc] at hsolid
    cases hsolid
  have hb' : b = [] := hnil b hb fun c hc => by rw [hs]; simp [hc]
  have ha' : a = [] := hnil a ha fun c hc => by rw [hs]; simp [hc]
  rw [hb', ha', List.nil_append, List.append_nil] at hs
  exact hs.symm

theorem trimLeft_blank_append {b : List Char} (hb : IsBlankText b) (s : List Char) : trimLeft (b ++ s) = trimLeft s :=
  List.dropWhile_append_of_pos hb

theorem trimLeft_cons {c : Char} (hc : isBlank c = false) (s : List Char) : trimLeft (c :: s) = c :: s :=
  List.dropWhile_cons_of_neg (by simp [hc])

theorem trimLeft_append_cons {c : Char} (hc : isBlank c = false) (s t : List Char) :
    trimLeft (s ++ c :: t) = trimLeft s ++ c :: t := by
  rw [trimLeft, trimLeft, List.dropWhile_append]
  split
  · rename_i hs
    rw [List.isEmpty_iff.1 hs, List.nil_append, List.dropWhile_cons_of_neg (by simp [hc])]
  · rfl

theorem trim_blank_append {b : List Char} (hb : IsBlankText b) (s : List Char) : trim (b ++ s) = trim s := by
  have hs := trim_surrounded (a := []) hb (fun _ hc => absurd hc List.not_mem_nil) s
  rwa [List.append_nil] at hs

theorem trim_append_blank {a : List Char} (ha : IsBlankText a) (s : List Char) : trim (s ++ a) = trim s :=
  trim_surrounded (b := []) (fun _ hc => absurd hc List.not_mem_nil) ha s

/-- A text that begins as an alias with a name: the name, `OF` between blanks, and something else than a
parenthesis. -/
def AliasForm (name s : List Char) : Prop :=
  ∃ gap gap' x rest, IsRun name ∧ IsGap gap ∧ IsGap gap' ∧ isBlank x = false ∧ x ≠ '(' ∧
    s = name ++ (gap ++ 'O' :: 'F' :: (gap' ++ x :: rest))

theorem span_append {α : Type} {p : α → Bool} {a b : List α} (ha : ∀ c ∈ a, p c = true)
    (hb : ∀ x t, b = x :: t → p x = false) : (a ++ b).span p = (a, b) := by
  rw [List.span_eq_takeWhile_dropWhile, List.takeWhile_append_of_pos ha, List.dropWhile_append_of_pos ha]
  cases b with
  | nil => simp
  | cons x t => simp [hb x t rfl]

theorem span_spec {α : Type} {p : α → Bool} {s a b : List α} (h : s.span p = (a, b)) :
    s = a ++ b ∧ (∀ c ∈ a, p c = true) ∧ ∀ x t, b = x :: t → p x = false := by
  rw [List.span_eq_takeWhile_dropWhile] at h
  obtain ⟨rfl, rfl⟩ := Prod.mk.inj h
  refine ⟨List.takeWhile_append_dropWhile.symm, List.all_eq_true.1 List.all_takeWhile, fun x t hx => ?_⟩
  have hne : s.dropWhile p ≠ [] := by simp [hx]
  have hhead := List.head_dropWhile_not p hne
  simpa [hx] using hhead

theorem span_run {name gap s : List Char} (hname : IsRun name) (hgap : IsGap gap) :
    (name ++ (gap ++ s)).span (!isBlank ·) = (name, gap ++ s) := by
  obtain ⟨g, gs, rfl⟩ := List.exists_cons_of_ne_nil hgap.ne_nil
  have hg : isBlank g = true := hgap.blank g (by simp)
  refine span_append (by simpa using hname.solid) fun x t he => ?_
  obtain ⟨rfl, -⟩ := List.cons.inj he
  simpa using hg

theorem eq_of_blank_append {b b' s s' : List Char} {x y : Char} (hb : IsBlankText b) (hb' : IsBlankText b')
    (hx : isBlank x = false) (hy : isBlank y = false) (h : b ++ x :: s = b' ++ y :: s') : x = y := by
  have hspan : (b ++ x :: s).span isBlank = (b, x :: s) := span_append hb fun _ _ he => (List.cons.inj he).1 ▸ hx
  have hspan' : (b' ++ y :: s').span isBlank = (b', y :: s') :=
    span_append hb' fun _ _ he => (List.cons.inj he).1 ▸ hy
  rw [h, hspan'] at hspan
  exact (List.cons.inj (Prod.mk.inj hspan).2).1.symm

/-- A name with a colon after blanks is not that of an alias, and no other one is. -/
theorem not_form_of_colon {name gap : List Char} (hname : IsRun name) (hgap : IsGap gap) (s name' : List Char) :
    ¬ AliasForm name' (name ++ (gap ++ ':' :: s)) := by
  rintro ⟨gap', gap'', x, rest, hname', hgap', -, -, -, he⟩
  have hspan := congrArg (List.span (!isBlank ·)) he
  rw [span_run hname hgap, span_run hname' hgap'] at hspan
  exact absurd (eq_of_blank_append hgap.blank hgap'.blank (by decide) (by decide) (Prod.mk.inj hspan).2) (by decide)

theorem filled?_of_trim {s t : List Char} (h : trim s = t) (ht : t ≠ []) : filled? s = some (String.ofList t) := by
  unfold filled?
  split
  · rename_i hnil
    exact absurd (h.symm.trans hnil) ht
  · rw [h]

namespace Declaration

theorem alias?_eq {s name s₁ gap s₂ gap' s₃ target s₄ : List Char} (h₁ : s.span (!isBlank ·) = (name, s₁))
    (h₂ : s₁.span isBlank = (gap, 'O' :: 'F' :: s₂)) (h₃ : s₂.span isBlank = (gap', s₃))
    (h₄ : s₃.span (fun c => !isBlank c && c ≠ '(') = (target, s₄)) (hname : name ≠ []) (hgap : gap ≠ [])
    (hgap' : gap' ≠ []) (htarget : target ≠ []) :
    alias? s = some {
      name := String.ofList name
      attributes := (firstGroup (trimLeft s₄)).elim [] fun g => Attributes.parse g.inside
      aliasFor := some (String.ofList target) } := by
  obtain ⟨n, ns, rfl⟩ := List.exists_cons_of_ne_nil hname
  obtain ⟨g, gs, rfl⟩ := List.exists_cons_of_ne_nil hgap
  obtain ⟨g', gs', rfl⟩ := List.exists_cons_of_ne_nil hgap'
  obtain ⟨x, xs, rfl⟩ := List.exists_cons_of_ne_nil htarget
  simp only [alias?, h₁, h₂, h₃, h₄]
  cases firstGroup (trimLeft s₄) <;> rfl

theorem alias?_of_form {name s : List Char} (h : AliasForm name s) :
    ∃ d, alias? s = some d ∧ d.name = String.ofList name := by
  obtain ⟨gap, gap', x, rest, hname, hgap, hgap', hx, hparen, rfl⟩ := h
  refine ⟨_, alias?_eq (span_run hname hgap) (span_append hgap.blank ?_) (span_append hgap'.blank ?_)
    (List.span_eq_takeWhile_dropWhile _ _) hname.ne_nil hgap.ne_nil hgap'.ne_nil ?_, rfl⟩
  · intro y t he
    obtain ⟨rfl, -⟩ := List.cons.inj he
    decide
  · intro y t he
    obtain ⟨rfl, -⟩ := List.cons.inj he
    exact hx
  · rw [List.takeWhile_cons_of_pos (by simp [hx, hparen])]
    simp

theorem form_of_alias? {s : List Char} {d : Declaration} (h : alias? s = some d) :
    ∃ name, AliasForm name s ∧ d.name = String.ofList name := by
  rcases h₁ : s.span (!isBlank ·) with ⟨name, s₁⟩
  rcases h₂ : s₁.span isBlank with ⟨gap, s₂⟩
  simp only [alias?, h₁, h₂] at h
  split at h
  · rename_i n ns g gs s₃
    rcases h₃ : s₃.span isBlank with ⟨gap', s₄⟩
    rcases h₄ : s₄.span (fun c => !isBlank c && c ≠ '(') with ⟨target, s₅⟩
    simp only [h₃, h₄] at h
    split at h
    · rename_i g' gs' x xs
      obtain ⟨rfl, hname, -⟩ := span_spec h₁
      obtain ⟨rfl, hgap, -⟩ := span_spec h₂
      obtain ⟨rfl, hgap', -⟩ := span_spec h₃
      obtain ⟨rfl, htarget, -⟩ := span_spec h₄
      have hx : isBlank x = false ∧ x ≠ '(' := by simpa using htarget x (by simp)
      refine ⟨n :: ns, ⟨g :: gs, g' :: gs', x, xs ++ s₅, ⟨by simp, by simpa using hname⟩, ⟨by simp, hgap⟩,
        ⟨by simp, hgap'⟩, hx.1, hx.2, by simp⟩, ?_⟩
      rw [← Option.some.inj h]
    · cases h
  · cases h

theorem alias?_of_colon {name gap : List Char} (hname : IsRun name) (hgap : IsGap gap) (s : List Char) :
    alias? (name ++ (gap ++ ':' :: s)) = none := by
  cases ha : alias? (name ++ (gap ++ ':' :: s)) with
  | none => rfl
  | some d =>
    obtain ⟨name', hform, -⟩ := form_of_alias? ha
    exact absurd hform (not_form_of_colon hname hgap s name')

theorem splitColon_shade {before after : List Char} (hbefore : ∀ c ∈ before, c ∉ ['"', ':'])
    (hafter : after.head? ≠ some '=') : splitColon (shade (before ++ ':' :: after)) = some (before, after) := by
  induction before with
  | nil =>
    have hhead : (shadeFrom false after).head?.all (·.1 ≠ '=') = true := by
      cases after with
      | nil => rfl
      | cons c s => simpa [shadeFrom_outside] using hafter
    rw [List.nil_append, shade, shadeFrom_outside, splitColon]
    rw [if_pos]
    · exact congrArg (fun t => some ([], t)) (shadeFrom_chars _ _)
    · simpa using hhead
  | cons c before ih =>
    have hc := hbefore c (by simp)
    simp only [List.mem_cons, List.not_mem_nil, or_false, not_or] at hc
    have ih := ih fun d hd => hbefore d (List.mem_cons_of_mem _ hd)
    rw [shade] at ih
    rw [List.cons_append, shade, shadeFrom_outside, decide_eq_false hc.1, splitColon, if_neg (by simp [hc.2]), ih]
    rfl

theorem typed?_of_colon {before after : List Char} (hbefore : ∀ c ∈ before, c ∉ ['"', ':'])
    (hname : trim before ≠ []) (hafter : after.head? ≠ some '=') :
    ∃ d, typed? (before ++ ':' :: after) = some d ∧ d.name = String.ofList (trim before) := by
  have hfilled : filled? before = some (String.ofList (trim before)) := filled?_of_trim rfl hname
  rw [typed?, splitColon_shade hbefore hafter]
  simp only [hfilled]
  split <;> exact ⟨_, rfl, rfl⟩

end Declaration

end LadderAtlas.L5k
