import LadderAtlas.Document.Parse
import LadderAtlas.Proofs.L5k.TagBlock

/-!
# Parsed documents are valid

A document may become a snapshot if it is `Valid`: no tag is declared twice in one scope, no rung number
stands twice in one routine, at most one task runs continuously, and each collection that is not empty has
its section among those that are there. The first three are checked after reading, so what is left to prove
of them is that the check refuses neither too much nor too little (`check_eq_ok_iff`). The sections are not
checked: the readers set them in many places, and `Lists` is what each place keeps.
-/

namespace LadderAtlas

namespace Reading
variable {α β : Type}

/-- Every result of a computation has a property. -/
def Yields (x : Reading α) (P : α → Prop) : Prop := ∀ a, x.result = .ok a → P a

theorem yields_pure {P : α → Prop} {a : α} (h : P a) : Yields (pure a) P := by
  intro b hb
  obtain rfl := Except.ok.inj hb
  exact h

theorem yields_true (x : Reading α) : Yields x fun _ => True := fun _ _ => trivial

theorem yields_fail (P : α → Prop) (f : Failure) : Yields (fail f) P := by
  intro a ha
  cases ha

theorem yields_lift {P : α → Prop} {x : Noted α} (h : P x.value) : Yields (liftM x) P := by
  intro b hb
  obtain rfl := Except.ok.inj hb
  exact h

theorem yields_bind {P : α → Prop} {Q : β → Prop} {x : Reading α} {f : α → Reading β} (hx : Yields x P)
    (hf : ∀ a, P a → Yields (f a) Q) : Yields (x >>= f) Q := by
  intro b hb
  rw [result_bind] at hb
  cases ha : x.result with
  | error e =>
    rw [ha] at hb
    cases hb
  | ok a =>
    rw [ha] at hb
    exact hf a (hx a ha) b hb

theorem yields_each {P : β → Prop} {f : α → Reading β} {l : List α} (h : ∀ a ∈ l, Yields (f a) P) :
    Yields (each f l) fun m => ∀ b ∈ m, P b := by
  induction l with
  | nil => exact yields_pure fun _ hb => absurd hb List.not_mem_nil
  | cons a l ih =>
    have hl := ih fun c hc => h c (List.mem_cons_of_mem _ hc)
    refine yields_bind (h a (by simp)) fun b hb => yields_bind hl fun m hm => yields_pure ?_
    intro c hc
    rcases List.mem_cons.1 hc with rfl | hc
    · exact hb
    · exact hm c hc

end Reading

namespace Contents
variable {c d : Contents} {l : List Contents} {given : List Section} {s : Section}

/-- The contents hold something that belongs to a section. -/
def Fills (c : Contents) : Section → Prop
  | .tags => c.tags ≠ []
  | .dataTypes => c.udts ≠ []
  | .aois => c.aois ≠ []
  | .programs => c.routines ≠ [] ∨ c.rungs ≠ []
  | .modules => c.modules ≠ []
  | .tasks => c.tasks ≠ []

/-- The sections that the contents fill are listed, the given ones aside. -/
def Lists (given : List Section) (c : Contents) : Prop := ∀ s, c.Fills s → s ∈ given ∨ s ∈ c.sections

theorem fills_append : (c ++ d).Fills s ↔ c.Fills s ∨ d.Fills s := by
  have happend : ∀ {α : Type} (l m : List α), l ++ m ≠ [] ↔ l ≠ [] ∨ m ≠ [] := by
    intro α l m
    rw [ne_eq, List.append_eq_nil_iff, Decidable.not_and_iff_or_not]
  cases s with
  | tags => exact happend _ _
  | dataTypes => exact happend _ _
  | aois => exact happend _ _
  | programs =>
    show c.routines ++ d.routines ≠ [] ∨ c.rungs ++ d.rungs ≠ [] ↔ _
    rw [happend, happend]
    exact or_or_or_comm
  | modules => exact happend _ _
  | tasks => exact happend _ _

theorem mem_sections_append : s ∈ (c ++ d).sections ↔ s ∈ c.sections ∨ s ∈ d.sections := List.mem_append

namespace Lists

theorem append (hc : c.Lists given) (hd : d.Lists given) : (c ++ d).Lists given := by
  intro s hs
  rw [mem_sections_append]
  rcases fills_append.1 hs with hs | hs
  · rcases hc s hs with hs | hs
    · exact .inl hs
    · exact .inr (.inl hs)
  · rcases hd s hs with hs | hs
    · exact .inl hs
    · exact .inr (.inr hs)

theorem empty : Lists given {} := by
  intro s hs
  cases s <;> simp [Fills] at hs

theorem join (h : ∀ c ∈ l, Lists given c) : (Contents.join l).Lists given := by
  induction l with
  | nil => exact empty
  | cons c l ih =>
    have hl := ih fun d hd => h d (List.mem_cons_of_mem _ hd)
    exact append (h c (by simp)) hl

/-- What contents may leave out is listed before them. -/
theorem after (h : c.Lists given) : Lists [] ({ sections := given } ++ c) := by
  intro s hs
  rw [mem_sections_append]
  rcases fills_append.1 hs with hs | hs
  · exact absurd hs (by cases s <;> simp [Fills])
  · exact .inr (h s hs)

end Lists

end Contents

/-! ### L5K files -/

namespace L5k
open Reading

theorem lists_programPart (program : String) (b : Block) : (programPart program b).value.Lists [.programs] := by
  intro s hs
  unfold programPart at hs ⊢
  split at hs
  · cases s <;> simp_all [Contents.Fills]
  · cases s <;> simp_all [Contents.Fills]

theorem lists_program (b : Block) : (program b).Yields (Contents.Lists []) := by
  refine yields_bind (yields_true _) fun inner _ => ?_
  have hparts : ∀ c ∈ (Noted.each (programPart b.name) inner).value, c.Lists [.programs] := by
    intro c hc
    rw [Noted.value_each] at hc
    obtain ⟨i, -, rfl⟩ := List.mem_map.1 hc
    exact lists_programPart b.name i
  exact yields_bind (yields_lift hparts) fun parts hparts => yields_pure (Contents.Lists.join hparts).after

theorem lists_part (b : Block) : (part b).Yields (Contents.Lists []) := by
  unfold part
  split
  · exact yields_bind (yields_true _) fun l _ => yields_pure fun s hs => by cases s <;> simp_all [Contents.Fills]
  · exact yields_bind (yields_true _) fun u _ => yields_pure fun s hs => by cases s <;> simp_all [Contents.Fills]
  · exact yields_bind (yields_true _) fun a _ => yields_pure fun s hs => by cases s <;> simp_all [Contents.Fills]
  · exact yields_bind (yields_true _) fun m _ => yields_pure fun s hs => by cases s <;> simp_all [Contents.Fills]
  · exact lists_program b
  · exact yields_bind (yields_true _) fun t _ => yields_pure fun s hs => by cases s <;> simp_all [Contents.Fills]

end L5k

theorem lists_ofL5k (s : List Char) : (Document.ofL5k s).Yields fun d => d.toContents.Lists [] := by
  unfold Document.ofL5k
  split
  · exact Reading.yields_bind (Reading.yields_fail (fun _ => False) _) fun _ h => h.elim
  · refine Reading.yields_bind (Reading.yields_true _) fun revision _ => ?_
    refine Reading.yields_bind (Reading.yields_true _) fun controllers _ => ?_
    cases controllers with
    | nil => exact Reading.yields_fail _ _
    | cons controller others =>
      refine Reading.yields_bind (Reading.yields_true _) fun blocks _ => ?_
      refine Reading.yields_bind (Reading.yields_each fun b _ => L5k.lists_part b) fun parts hparts => ?_
      exact Reading.yields_pure (Contents.Lists.join hparts)

/-! ### L5X files -/

namespace L5x
open Reading

theorem lists_routine (program : String) (e : Xml.Element) : (routine program e).value.Lists [.programs] := by
  intro s hs
  unfold routine at hs ⊢
  cases s <;> simp_all [Contents.Fills]

theorem lists_tagList (scope : String) (e : Xml.Element) (given : List Section) : (tagList scope e).Lists given := by
  intro s hs
  unfold tagList at hs ⊢
  split at hs
  · exact Contents.Lists.empty s hs
  · cases s <;> simp_all [Contents.Fills]

theorem lists_program (e : Xml.Element) : (program e).value.Lists [.programs] := by
  refine (lists_tagList _ e _).append (Contents.Lists.join fun c hc => ?_)
  rw [Noted.value_each] at hc
  obtain ⟨r, -, rfl⟩ := List.mem_map.1 hc
  exact lists_routine _ r

theorem lists_sectionOf {controller : Xml.Element} {list item : String} {read : List Xml.Element → Reading Contents}
    (h : ∀ l, (read l).Yields (Contents.Lists [])) : (sectionOf controller list item read).Yields (Contents.Lists []) := by
  unfold sectionOf
  split
  · exact yields_pure Contents.Lists.empty
  · exact h _

theorem lists_contents (controller : Xml.Element) : (contents controller).Yields (Contents.Lists []) := by
  refine yields_bind (lists_sectionOf fun l => ?_) fun types htypes => ?_
  · exact yields_bind (yields_true _) fun u _ => yields_pure fun s hs => by cases s <;> simp_all [Contents.Fills]
  refine yields_bind (lists_sectionOf fun l => ?_) fun aois haois => ?_
  · exact yields_pure fun s hs => by cases s <;> simp_all [Contents.Fills]
  refine yields_bind (lists_sectionOf fun l => ?_) fun programs hprograms => ?_
  · have hall : ∀ c ∈ (Noted.each program l).value, c.Lists [.programs] := by
      intro c hc
      rw [Noted.value_each] at hc
      obtain ⟨e, -, rfl⟩ := List.mem_map.1 hc
      exact lists_program e
    exact yields_bind (yields_lift hall) fun l hl => yields_pure (Contents.Lists.join hl).after
  refine yields_bind (lists_sectionOf fun l => ?_) fun modules hmodules => ?_
  · exact yields_bind (yields_true _) fun m _ => yields_pure fun s hs => by cases s <;> simp_all [Contents.Fills]
  refine yields_bind (lists_sectionOf fun l => ?_) fun tasks htasks => yields_pure (Contents.Lists.join fun c hc => ?_)
  · exact yields_bind (yields_true _) fun t _ => yields_pure fun s hs => by cases s <;> simp_all [Contents.Fills]
  · simp only [List.mem_cons, List.not_mem_nil, or_false] at hc
    rcases hc with rfl | rfl | rfl | rfl | rfl | rfl
    · exact lists_tagList _ _ _
    · exact htypes
    · exact haois
    · exact hprograms
    · exact hmodules
    · exact htasks

end L5x

theorem lists_ofL5x (bytes : List UInt8) : (Document.ofL5x bytes).Yields fun d => d.toContents.Lists [] := by
  refine Reading.yields_bind (Reading.yields_true _) fun root _ => ?_
  refine Reading.yields_bind (Reading.yields_true _) fun _ _ => ?_
  cases root.child? "Controller" with
  | none => exact Reading.yields_fail _ _
  | some controller =>
    exact Reading.yields_bind (L5x.lists_contents controller) fun c hc => Reading.yields_pure hc

/-! ### The check -/

namespace Document

/-- The conditions that are checked after reading. -/
structure Unrepeated (d : Document) : Prop where
  tags : (d.tags.map tagKey).Nodup
  rungs : (d.rungs.map rungKey).Nodup
  continuous : d.continuousTasks.length ≤ 1

structure Valid (d : Document) : Prop extends Unrepeated d where
  sections : ∀ s, d.Fills s → s ∈ d.sections

theorem least?_repeated_eq_none_iff {α : Type} [BEq α] [LawfulBEq α] (le : α → α → Bool) (l : List α) :
    least? le (repeated l) = none ↔ l.Nodup := (least?_eq_none_iff le _).trans (repeated_eq_nil_iff l)

/-- A document is refused for one of the conditions, and for being malformed. -/
theorem violation?_cases (d : Document) :
    d.violation? = none ∧ d.Unrepeated ∨
      ¬ d.Unrepeated ∧ ∃ cause, d.violation? = some cause ∧ cause.sort = .malformed := by
  unfold violation?
  cases htags : least? tagKeyLe (repeated (d.tags.map tagKey)) with
  | some k =>
    refine .inr ⟨fun h => ?_, _, rfl, rfl⟩
    rw [(least?_repeated_eq_none_iff _ _).2 h.tags] at htags
    cases htags
  | none =>
    cases hrungs : least? rungKeyLe (repeated (d.rungs.map rungKey)) with
    | some k =>
      refine .inr ⟨fun h => ?_, _, rfl, rfl⟩
      rw [(least?_repeated_eq_none_iff _ _).2 h.rungs] at hrungs
      cases hrungs
    | none =>
      by_cases hcontinuous : 1 < d.continuousTasks.length
      · refine .inr ⟨fun h => ?_, _, if_pos hcontinuous, rfl⟩
        have := h.continuous
        omega
      · have htags := (least?_repeated_eq_none_iff _ _).1 htags
        have hrungs := (least?_repeated_eq_none_iff _ _).1 hrungs
        exact .inl ⟨if_neg hcontinuous, htags, hrungs, Nat.le_of_not_lt hcontinuous⟩

theorem check_eq_ok_iff (d : Document) : d.check = .ok () ↔ d.Unrepeated := by
  unfold check
  rcases violation?_cases d with ⟨hnone, h⟩ | ⟨h, cause, hsome, -⟩
  · rw [hnone]
    exact iff_of_true rfl h
  · rw [hsome]
    exact iff_of_false (fun he => by cases he) h

theorem check_of_not_unrepeated {d : Document} (h : ¬ d.Unrepeated) :
    ∃ cause, d.check = .error (.parse d.kind cause) ∧ cause.sort = .malformed := by
  unfold check
  rcases violation?_cases d with ⟨-, hd⟩ | ⟨-, cause, hsome, hsort⟩
  · exact absurd hd h
  · exact ⟨cause, by rw [hsome], hsort⟩

theorem lists_read (kind : FileKind) (bytes : List UInt8) : (read kind bytes).Yields fun d => d.toContents.Lists [] := by
  cases kind with
  | l5x => exact lists_ofL5x bytes
  | l5k => exact lists_ofL5k _

/-- A document that is parsed is valid, and of the documents that are read the check refuses those that
break one of its conditions, as malformed, and no others. -/
theorem parse_valid :
    (∀ config kind bytes d, (parse config kind bytes).result = .ok d → d.Valid) ∧
    ∀ d : Document, (d.check = .ok () ↔ d.Unrepeated) ∧
      (¬ d.Unrepeated → ∃ cause, d.check = .error (.parse d.kind cause) ∧ cause.sort = .malformed) := by
  refine ⟨fun config kind bytes => ?_, fun d => ⟨check_eq_ok_iff d, check_of_not_unrepeated⟩⟩
  refine Reading.yields_bind (Reading.yields_true _) fun _ _ => ?_
  refine Reading.yields_bind (lists_read kind bytes) fun d hd => ?_
  have hcheck : (Reading.ofExcept d.check).Yields fun _ => d.Unrepeated := by
    intro _ h
    rw [Reading.result_ofExcept] at h
    exact (check_eq_ok_iff d).1 h
  refine Reading.yields_bind hcheck fun _ h => Reading.yields_pure ?_
  exact ⟨h, fun s hs => (hd s hs).resolve_left List.not_mem_nil⟩

/-- The bytes of a file with a tag and a rung. -/
def lineFile : List UInt8 :=
  ("CONTROLLER C\nTAG\nA : DINT;\nEND_TAG\n" ++
    "PROGRAM P\nROUTINE R\nN: XIC(A);\nEND_ROUTINE\nEND_PROGRAM\nEND_CONTROLLER\n").toList.map
    fun c => UInt8.ofNat c.toNat

/-- A document that declares one tag twice. -/
def twinTags : Document :=
  { kind := .l5k, tags := List.replicate 2 { name := "A", dataType := "DINT", scope := controllerScope } }

theorem parse_valid_line :
    (∃ d, (parse {} .l5k lineFile).result = .ok d ∧ (d.tags.length, d.rungs.length) = (1, 1) ∧ d.Valid) ∧
    ¬ twinTags.Unrepeated ∧ ∃ cause, twinTags.check = .error (.parse .l5k cause) ∧ cause.sort = .malformed := by
  have htwin : ¬ twinTags.Unrepeated := fun h => absurd h.tags (by decide)
  refine ⟨?_, htwin, (parse_valid.2 twinTags).2 htwin⟩
  have hsome : ((parse {} .l5k lineFile).result.toOption.map fun d => (d.tags.length, d.rungs.length)) = some (1, 1) := by
    decide +kernel
  cases hd : (parse {} .l5k lineFile).result with
  | error e =>
    rw [hd] at hsome
    cases hsome
  | ok d =>
    rw [hd] at hsome
    exact ⟨d, rfl, Option.some.inj hsome, parse_valid.1 _ _ _ d hd⟩

end Document

end LadderAtlas
