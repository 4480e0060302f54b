import LadderAtlas.Proofs.Document.Valid

/-!
# Rungs and their routines

A document lists its routines and its rungs apart, and a routine only states how many rungs it has. Both come
from the routines that stand in the programs of the file (`routineParts`): a part is one routine with its rungs
(`IsRoutine`), and a document carries the parts in order and no more (`Carries`), so nothing is added to them by
the other blocks of a controller. An add-on instruction may have the name of a program and a routine the name of
one in that program; its rungs would look as those of the program do. That they are left out is therefore said
by the list of all rungs, not rung by rung.

If no two routines have the same program and name, the rungs with the names of a routine are those of its own
part, from which the counts and the numbers follow.
-/

namespace LadderAtlas

def Routine.place (q : Routine) : String × String := (q.programName, q.name)

/-- Program and name of the routine that a rung belongs to. -/
def Rung.place (r : Rung) : String × String := (r.programName, r.routineName)

namespace Contents
variable {α : Type} {c d p : Contents} {ps ps' : List Contents} {q : Routine}

/-- The rungs that belong to a routine by its names. -/
def rungsOf (c : Contents) (q : Routine) : List Rung := c.rungs.filter fun r => r.place = q.place

/-- The routines and the rungs of contents are those of parts in order. -/
structure Carries (ps : List Contents) (c : Contents) : Prop where
  routines : c.routines = ps.flatMap (·.routines)
  rungs : c.rungs = ps.flatMap (·.rungs)

namespace Carries

theorem nothing (hroutines : c.routines = []) (hrungs : c.rungs = []) : Carries [] c := ⟨hroutines, hrungs⟩

theorem itself (c : Contents) : Carries [c] c := ⟨by simp, by simp⟩

theorem append (hc : Carries ps c) (hd : Carries ps' d) : Carries (ps ++ ps') (c ++ d) where
  routines := by
    show c.routines ++ d.routines = _
    rw [hc.routines, hd.routines, List.flatMap_append]
  rungs := by
    show c.rungs ++ d.rungs = _
    rw [hc.rungs, hd.rungs, List.flatMap_append]

theorem join {l : List α} {parts : α → List Contents} {read : α → Contents}
    (h : ∀ a ∈ l, Carries (parts a) (read a)) : Carries (l.flatMap parts) (Contents.join (l.map read)) := by
  induction l with
  | nil => exact nothing rfl rfl
  | cons a l ih =>
    have hl := ih fun b hb => h b (List.mem_cons_of_mem _ hb)
    exact append (h a (by simp)) hl

theorem join_each {l : List α} {parts : α → List Contents} {read : α → Reading Contents}
    (h : ∀ a ∈ l, (read a).Yields (Carries (parts a))) :
    (Reading.each read l).Yields fun cs => Carries (l.flatMap parts) (Contents.join cs) := by
  induction l with
  | nil => exact Reading.yields_pure (nothing rfl rfl)
  | cons a l ih =>
    have hl := ih fun b hb => h b (List.mem_cons_of_mem _ hb)
    refine Reading.yields_bind (h a (by simp)) fun c hc => Reading.yields_bind hl fun cs hcs => ?_
    exact Reading.yields_pure (append hc hcs)

/-- What a computation yields carries nothing if it is put together without routines and rungs. -/
theorem yields_nothing {x : Reading α} {f : α → Contents} (h : ∀ a, (f a).routines = [] ∧ (f a).rungs = []) :
    (x >>= fun a => pure (f a)).Yields (Carries []) :=
  Reading.yields_bind (Reading.yields_true x) fun a _ => Reading.yields_pure (nothing (h a).1 (h a).2)

theorem yields_join {x : Noted (List Contents)} {sections : List Section} (h : Carries ps (Contents.join x.value)) :
    ((liftM x : Reading (List Contents)) >>= fun cs => pure ({ sections } ++ Contents.join cs)).Yields (Carries ps) := by
  have hx : (liftM x : Reading (List Contents)).Yields fun cs => Carries ps (Contents.join cs) := Reading.yields_lift h
  refine Reading.yields_bind hx fun cs hcs => Reading.yields_pure ?_
  exact append (nothing rfl rfl) hcs

end Carries

/-- Contents that are one routine with its rungs; a ladder routine states their number. -/
structure IsRoutine (p : Contents) (q : Routine) : Prop where
  routines : p.routines = [q]
  places : ∀ r ∈ p.rungs, r.place = q.place
  counted : q.type = ladderType → q.rungCount = some p.rungs.length

/-- The rungs of a routine are numbered from zero, up to the number that it states. -/
def NumberedInOrder (rungs : List Rung) (q : Routine) : Prop :=
  rungs.map (·.number) = (List.range (q.rungCount.getD 0).toNat).map Int.ofNat

/-! ### Parts that are routines -/

def AreRoutines (ps : List Contents) : Prop := ∀ p ∈ ps, ∃ q, p.IsRoutine q

theorem AreRoutines.tail (h : AreRoutines (p :: ps)) : AreRoutines ps := fun x hx => h x (List.mem_cons_of_mem _ hx)

theorem IsRoutine.mem (h : p.IsRoutine q) (hp : p ∈ ps) : q ∈ ps.flatMap (·.routines) := by
  refine List.mem_flatMap.2 ⟨p, hp, ?_⟩
  rw [h.routines]
  exact List.mem_singleton.2 rfl

theorem IsRoutine.unique {q' : Routine} (h : p.IsRoutine q) (h' : p.IsRoutine q') : q = q' :=
  List.singleton_inj.1 (h.routines.symm.trans h'.routines)

theorem IsRoutine.rungsOf_eq (h : p.IsRoutine q) : p.rungsOf q = p.rungs :=
  List.filter_eq_self.2 fun r hr => decide_eq_true (h.places r hr)

theorem exists_routine_of_rung (h : AreRoutines ps) {r : Rung} (hr : r ∈ ps.flatMap (·.rungs)) :
    ∃ q ∈ ps.flatMap (·.routines), r.place = q.place := by
  obtain ⟨p, hp, hr⟩ := List.mem_flatMap.1 hr
  obtain ⟨q, hq⟩ := h p hp
  exact ⟨q, hq.mem hp, hq.places r hr⟩

theorem exists_part_of_routine (h : AreRoutines ps) (hq : q ∈ ps.flatMap (·.routines)) : ∃ p ∈ ps, p.IsRoutine q := by
  obtain ⟨p, hp, hq⟩ := List.mem_flatMap.1 hq
  obtain ⟨q', hq'⟩ := h p hp
  rw [hq'.routines, List.mem_singleton] at hq
  exact ⟨p, hp, hq ▸ hq'⟩

theorem filter_rungs_eq_nil (h : AreRoutines ps) (hq : q.place ∉ (ps.flatMap (·.routines)).map Routine.place) :
    (ps.flatMap (·.rungs)).filter (fun r => r.place = q.place) = [] := by
  refine List.filter_eq_nil_iff.2 fun r hr hplace => hq ?_
  obtain ⟨q', hq', hplace'⟩ := exists_routine_of_rung h hr
  have hsame : q'.place = q.place := hplace'.symm.trans (of_decide_eq_true hplace)
  exact List.mem_map.2 ⟨q', hq', hsame⟩

/-- Where no two routines have the same names, the rungs with the names of a routine are those of its part. -/
theorem filter_rungs_eq (h : AreRoutines ps) (hdistinct : ((ps.flatMap (·.routines)).map Routine.place).Nodup)
    (hp : p ∈ ps) (hq : p.IsRoutine q) : (ps.flatMap (·.rungs)).filter (fun r => r.place = q.place) = p.rungs := by
  -- of the first part and the others only one can hold rungs with these names, since the routines differ in theirs
  induction ps with
  | nil => cases hp
  | cons first ps ih =>
    obtain ⟨q₁, hq₁⟩ := h first (by simp)
    rw [List.flatMap_cons, hq₁.routines, List.singleton_append, List.map_cons, List.nodup_cons] at hdistinct
    rw [List.flatMap_cons, List.filter_append]
    rcases List.mem_cons.1 hp with rfl | hp
    · obtain rfl : q = q₁ := hq.unique hq₁
      rw [filter_rungs_eq_nil h.tail hdistinct.1, List.append_nil]
      exact hq.rungsOf_eq
    · have hne : q₁.place ≠ q.place := by
        intro he
        exact hdistinct.1 (he ▸ List.mem_map.2 ⟨q, hq.mem hp, rfl⟩)
      have hfirst : first.rungs.filter (fun r => r.place = q.place) = [] :=
        List.filter_eq_nil_iff.2 fun r hr hplace => hne ((hq₁.places r hr).symm.trans (of_decide_eq_true hplace))
      rw [hfirst, List.nil_append]
      exact ih h.tail hdistinct.2 hp

end Contents

open Contents

theorem flatMap_ite {α β : Type} (p : α → Prop) [DecidablePred p] (f : α → List β) (l : List α) :
    (l.flatMap fun a => if p a then f a else []) = (l.filter (p ·)).flatMap f := by
  induction l with
  | nil => rfl
  | cons a l ih => by_cases h : p a <;> simp [h, ih]

/-! ### L5K files -/

namespace L5k
open Reading

/-- The outermost blocks of a body; none where they cannot be told apart. -/
def blocksIn (keywords : List String) (b : Block) : List Block := (Block.collect keywords b.body).toOption.getD []

/-- What the routines in the body of a program block hold. -/
def programRoutines (program : Block) : List Contents :=
  ((blocksIn ("TAG" :: routineKeywords) program).filter (·.keyword ≠ "TAG")).map fun b =>
    (programPart program.name b).value

/-- What the routines in the programs of a controller hold. -/
def controllerRoutines (controller : Block) : List Contents :=
  ((blocksIn controllerKeywords controller).filter (·.keyword = "PROGRAM")).flatMap programRoutines

/-- The first controller of a text. -/
def controller? (s : List Char) : Option Block :=
  (Block.collect ["CONTROLLER"] (Text.lines s)).toOption.bind List.head?

theorem value_rungs (program routine : String) (lines : List (List Char)) :
    (rungs program routine lines).value = (bareRungs none none lines).1.mapIdx fun i (comment, logic) => {
      programName := program
      routineName := routine
      number := i
      logicText := String.ofList logic
      comment } := by
  unfold rungs
  rcases bareRungs none none lines with ⟨bare, unfinished⟩
  cases unfinished <;> rfl

theorem value_routineRungs (program : String) (b : Block) : (routineRungs program b).value =
    if b.keyword = "ROUTINE" then (ladderType, (rungs program b.name b.body).value)
    else ((routineTypes.lookup b.keyword).getD ladderType, []) := by
  unfold routineRungs
  split <;> rfl

theorem place_of_mem_routineRungs {program : String} {b : Block} {r : Rung}
    (hr : r ∈ (routineRungs program b).value.2) : r.place = (program, b.name) := by
  rw [value_routineRungs] at hr
  split at hr
  · rw [value_rungs] at hr
    obtain ⟨i, -, rfl⟩ := List.mem_mapIdx.1 hr
    rfl
  · cases hr

theorem number_routineRungs (program : String) (b : Block) : (routineRungs program b).value.2.map (·.number) =
    (List.range (routineRungs program b).value.2.length).map Int.ofNat := by
  rw [value_routineRungs]
  split
  · rw [value_rungs]
    exact List.ext_getElem (by simp) fun i _ _ => by simp
  · rfl

/-- The number that a routine states is that of its rungs, or it has none and states none. -/
theorem getD_rungCount (program : String) (b : Block) :
    ((rungCount (routineRungs program b).value.1 (routineRungs program b).value.2).getD 0).toNat =
      (routineRungs program b).value.2.length := by
  rw [value_routineRungs]
  split
  · rfl
  · unfold rungCount
    split <;> rfl

theorem routine_programPart {program : String} {b : Block} (h : b.keyword ≠ "TAG") :
    ∃ q, (programPart program b).value.IsRoutine q ∧ NumberedInOrder (programPart program b).value.rungs q := by
  rw [programPart, if_neg h]
  refine ⟨_, ⟨rfl, fun r hr => place_of_mem_routineRungs hr, fun hladder => if_pos hladder⟩, ?_⟩
  exact (number_routineRungs program b).trans (by rw [← getD_rungCount])

theorem routine_of_mem_controllerRoutines {controller : Block} {p : Contents} (hp : p ∈ controllerRoutines controller) :
    ∃ q, p.IsRoutine q ∧ NumberedInOrder p.rungs q := by
  obtain ⟨program, -, hp⟩ := List.mem_flatMap.1 hp
  obtain ⟨b, hb, rfl⟩ := List.mem_map.1 hp
  exact routine_programPart (of_decide_eq_true (List.mem_filter.1 hb).2)

theorem carries_programPart (program : String) (b : Block) :
    Carries (if b.keyword ≠ "TAG" then [(programPart program b).value] else []) (programPart program b).value := by
  by_cases htags : b.keyword = "TAG"
  · rw [if_neg (not_not_intro htags), programPart, if_pos htags]
    exact Carries.nothing rfl rfl
  · rw [if_pos htags]
    exact Carries.itself _

theorem yields_blocks (keywords : List String) (lines : List (List Char)) :
    (blocks keywords lines).Yields fun bs => Block.collect keywords lines = .ok bs := by
  intro bs h
  rw [blocks, result_ofExcept] at h
  cases hcollect : Block.collect keywords lines with
  | error cause =>
    rw [hcollect] at h
    cases h
  | ok bs' =>
    rw [hcollect] at h
    obtain rfl : bs' = bs := Except.ok.inj h
    rfl

theorem carries_program (b : Block) : (program b).Yields (Carries (programRoutines b)) := by
  refine yields_bind (yields_blocks _ b.body) fun inner hinner => ?_
  have hjoin : Carries (programRoutines b) (Contents.join (inner.map fun i => (programPart b.name i).value)) := by
    rw [programRoutines, blocksIn, hinner, List.map_eq_flatMap, ← flatMap_ite]
    exact Carries.join fun i _ => carries_programPart b.name i
  rw [← Noted.value_each] at hjoin
  exact Carries.yields_join hjoin

/-- Of the blocks of a controller only programs hold routines and rungs of the document. -/
theorem carries_part (b : Block) :
    (part b).Yields (Carries (if b.keyword = "PROGRAM" then programRoutines b else [])) := by
  by_cases hprogram : b.keyword = "PROGRAM"
  · rw [if_pos hprogram, part, hprogram]
    exact carries_program b
  · rw [if_neg hprogram]
    unfold part
    split
    · exact Carries.yields_nothing fun _ => ⟨rfl, rfl⟩
    · exact Carries.yields_nothing fun _ => ⟨rfl, rfl⟩
    · exact Carries.yields_nothing fun _ => ⟨rfl, rfl⟩
    · exact Carries.yields_nothing fun _ => ⟨rfl, rfl⟩
    · exact absurd ‹_› hprogram
    · exact Carries.yields_nothing fun _ => ⟨rfl, rfl⟩

end L5k

theorem carries_ofL5k (s : List Char) : (Document.ofL5k s).Yields fun d =>
    ∃ controller, L5k.controller? s = some controller ∧ Carries (L5k.controllerRoutines controller) d.toContents := by
  unfold Document.ofL5k
  split
  · exact Reading.yields_bind (Reading.yields_fail (fun _ => False) _) fun _ h => h.elim
  · refine Reading.yields_bind (Reading.yields_true _) fun revision _ => ?_
    refine Reading.yields_bind (L5k.yields_blocks _ _) fun controllers hcontrollers => ?_
    cases controllers with
    | nil => exact Reading.yields_fail _ _
    | cons controller others =>
      have hcontroller : L5k.controller? s = some controller := by
        rw [L5k.controller?, hcontrollers]
        rfl
      refine Reading.yields_bind (L5k.yields_blocks _ _) fun bs hbs => ?_
      refine Reading.yields_bind (Carries.join_each fun b _ => L5k.carries_part b) fun parts hparts => ?_
      refine Reading.yields_pure ⟨controller, hcontroller, ?_⟩
      rw [flatMap_ite] at hparts
      rw [L5k.controllerRoutines, L5k.blocksIn, hbs]
      exact ⟨hparts.routines, hparts.rungs⟩

/-! ### L5X files -/

namespace L5x
open Reading

/-- The name under which the routines of a program are listed. -/
def programName (program : Xml.Element) : String := Text.trimmed ((nonEmpty? program "Name").getD "Unknown")

def programRoutines (program : Xml.Element) : List Contents :=
  (itemsOf program "Routines" "Routine").map fun e => (routine (programName program) e).value

def controllerRoutines (controller : Xml.Element) : List Contents :=
  (itemsOf controller "Programs" "Program").flatMap programRoutines

def controller? (bytes : List UInt8) : Option Xml.Element := (rootOf bytes).toOption.bind (·.child? "Controller")

theorem isRoutine_routine (program : String) (e : Xml.Element) : ∃ q, (routine program e).value.IsRoutine q := by
  have hvalue : (routine program e).value.rungs =
      (rungElements e).zipIdx.map fun p => (rung program (nameOf e) p.1 p.2).value := by
    rw [routine, Noted.value_bind, Noted.value_each]
    rfl
  refine ⟨_, rfl, fun r hr => ?_, fun hladder => ?_⟩
  · rw [hvalue] at hr
    obtain ⟨i, -, rfl⟩ := List.mem_map.1 hr
    rfl
  · rw [hvalue, List.length_map, List.length_zipIdx]
    exact if_pos hladder

theorem routine_of_mem_controllerRoutines {controller : Xml.Element} {p : Contents}
    (hp : p ∈ controllerRoutines controller) : ∃ q, p.IsRoutine q := by
  obtain ⟨program, -, hp⟩ := List.mem_flatMap.1 hp
  obtain ⟨e, -, rfl⟩ := List.mem_map.1 hp
  exact isRoutine_routine _ e

theorem carries_tagList (scope : String) (e : Xml.Element) : Carries [] (tagList scope e) := by
  unfold tagList
  split
  · exact Carries.nothing rfl rfl
  · exact Carries.nothing rfl rfl

theorem carries_program (e : Xml.Element) : Carries (programRoutines e) (program e).value := by
  have hjoin : Carries (programRoutines e) (Contents.join (programRoutines e)) := by
    have hitself := Carries.join fun p (_ : p ∈ programRoutines e) => Carries.itself p
    rwa [List.map_id', List.flatMap_singleton'] at hitself
  have hvalue : (program e).value = tagList (programScope (programName e)) e ++ Contents.join (programRoutines e) := by
    rw [programRoutines, ← Noted.value_each]
    rfl
  rw [hvalue]
  exact (carries_tagList _ e).append hjoin

theorem carries_sectionOf {controller : Xml.Element} {list item : String} {read : List Xml.Element → Reading Contents}
    (parts : List Xml.Element → List Contents) (hnil : parts [] = []) (h : ∀ l, (read l).Yields (Carries (parts l))) :
    (sectionOf controller list item read).Yields (Carries (parts (itemsOf controller list item))) := by
  unfold sectionOf itemsOf
  cases controller.items? list item with
  | none =>
    refine yields_pure ?_
    rw [Option.getD_none, hnil]
    exact Carries.nothing rfl rfl
  | some l => exact h l

theorem carries_other {controller : Xml.Element} {list item : String} {read : List Xml.Element → Reading Contents}
    (h : ∀ l, (read l).Yields (Carries [])) : (sectionOf controller list item read).Yields (Carries []) :=
  carries_sectionOf (fun _ => []) rfl h

theorem carries_programs (l : List Xml.Element) :
    Carries (l.flatMap programRoutines) (Contents.join (Noted.each program l).value) := by
  rw [Noted.value_each]
  exact Carries.join fun e _ => carries_program e

/-- Of the sections of a controller only the programs hold routines and rungs of the document. -/
theorem carries_contents (controller : Xml.Element) :
    (contents controller).Yields (Carries (controllerRoutines controller)) := by
  refine yields_bind (carries_other fun l => ?_) fun types htypes => ?_
  · exact Carries.yields_nothing fun _ => ⟨rfl, rfl⟩
  refine yields_bind (carries_other fun l => ?_) fun aois haois => ?_
  · exact yields_pure (Carries.nothing rfl rfl)
  refine yields_bind (carries_sectionOf (·.flatMap programRoutines) rfl fun l => ?_) fun programs hprograms => ?_
  · exact Carries.yields_join (carries_programs l)
  refine yields_bind (carries_other fun l => ?_) fun modules hmodules => ?_
  · exact Carries.yields_nothing fun _ => ⟨rfl, rfl⟩
  refine yields_bind (carries_other fun l => ?_) fun tasks htasks => ?_
  · exact Carries.yields_nothing fun _ => ⟨rfl, rfl⟩
  have hlast := hprograms.append (hmodules.append (htasks.append (Carries.nothing (c := {}) rfl rfl)))
  have hall := (carries_tagList controllerScope controller).append (htypes.append (haois.append hlast))
  simp only [List.nil_append, List.append_nil] at hall
  exact yields_pure hall

end L5x

theorem carries_ofL5x (bytes : List UInt8) : (Document.ofL5x bytes).Yields fun d =>
    ∃ controller, L5x.controller? bytes = some controller ∧
      Carries (L5x.controllerRoutines controller) d.toContents := by
  have hroot : (Reading.ofExcept (L5x.rootOf bytes)).Yields fun root => L5x.rootOf bytes = .ok root := by
    intro root h
    rwa [Reading.result_ofExcept] at h
  refine Reading.yields_bind hroot fun root hroot => Reading.yields_bind (Reading.yields_true _) fun _ _ => ?_
  cases hcontroller : root.child? "Controller" with
  | none => exact Reading.yields_fail _ _
  | some controller =>
    refine Reading.yields_bind (L5x.carries_contents controller) fun c hc => Reading.yields_pure ⟨controller, ?_, hc⟩
    rw [L5x.controller?, hroot]
    exact hcontroller

/-! ### Documents -/

namespace Document

/-- What the routines in the programs of a file hold, in order. -/
def routineParts : FileKind → List UInt8 → List Contents
  | .l5k, bytes => (L5k.controller? (L5k.decodeBytes bytes)).toList.flatMap L5k.controllerRoutines
  | .l5x, bytes => (L5x.controller? bytes).toList.flatMap L5x.controllerRoutines

theorem carries_read (kind : FileKind) (bytes : List UInt8) :
    (read kind bytes).Yields fun d => Carries (routineParts kind bytes) d.toContents := by
  intro d hd
  cases kind with
  | l5x =>
    obtain ⟨controller, hcontroller, h⟩ := carries_ofL5x bytes d hd
    rwa [routineParts, hcontroller, Option.toList_some, List.flatMap_singleton]
  | l5k =>
    obtain ⟨controller, hcontroller, h⟩ := carries_ofL5k (L5k.decodeBytes bytes) d hd
    rwa [routineParts, hcontroller, Option.toList_some, List.flatMap_singleton]

theorem carries_parse (config : Config) (kind : FileKind) (bytes : List UInt8) :
    (parse config kind bytes).Yields fun d => Carries (routineParts kind bytes) d.toContents := by
  refine Reading.yields_bind (Reading.yields_true _) fun _ _ => ?_
  refine Reading.yields_bind (carries_read kind bytes) fun d hd => ?_
  exact Reading.yields_bind (Reading.yields_true _) fun _ _ => Reading.yields_pure hd

theorem routine_of_mem_routineParts {kind : FileKind} {bytes : List UInt8} {p : Contents}
    (hp : p ∈ routineParts kind bytes) : ∃ q, p.IsRoutine q ∧ (kind = .l5k → NumberedInOrder p.rungs q) := by
  cases kind with
  | l5x =>
    obtain ⟨controller, -, hp⟩ := List.mem_flatMap.1 hp
    obtain ⟨q, hq⟩ := L5x.routine_of_mem_controllerRoutines hp
    exact ⟨q, hq, fun h => by cases h⟩
  | l5k =>
    obtain ⟨controller, -, hp⟩ := List.mem_flatMap.1 hp
    obtain ⟨q, hq, hnumbered⟩ := L5k.routine_of_mem_controllerRoutines hp
    exact ⟨q, hq, fun _ => hnumbered⟩

/-- The rungs of a document are accounted for by its routines and by the programs of the file. -/
structure RungsAccounted (kind : FileKind) (bytes : List UInt8) (d : Document) : Prop where
  listed : ∀ r ∈ d.rungs, ∃ q ∈ d.routines, r.place = q.place
  counted : ∀ q ∈ d.routines, q.type = ladderType → q.rungCount = some (d.rungsOf q).length
  /-- There are no rungs but those of routines in programs. -/
  origin : Carries (routineParts kind bytes) d.toContents
  numbered : kind = .l5k → ∀ q ∈ d.routines, NumberedInOrder (d.rungsOf q) q

/-- In a document whose routines have distinct places the rungs are those of the routines in the programs of its
file, a ladder routine states how many are its own, and an L5K file numbers them in order. -/
theorem parse_rungs_accounted (config : Config) (kind : FileKind) (bytes : List UInt8) (d : Document)
    (hd : (parse config kind bytes).result = .ok d) (hdistinct : (d.routines.map Routine.place).Nodup) :
    d.RungsAccounted kind bytes := by
  have horigin := carries_parse config kind bytes d hd
  have hparts : AreRoutines (routineParts kind bytes) := fun p hp =>
    let ⟨q, hq, _⟩ := routine_of_mem_routineParts hp
    ⟨q, hq⟩
  have hpart : ∀ q ∈ d.routines, ∃ p ∈ routineParts kind bytes, p.IsRoutine q ∧ d.rungsOf q = p.rungs := by
    intro q hq
    rw [horigin.routines] at hq hdistinct
    obtain ⟨p, hp, hroutine⟩ := exists_part_of_routine hparts hq
    refine ⟨p, hp, hroutine, ?_⟩
    rw [rungsOf, horigin.rungs]
    exact filter_rungs_eq hparts hdistinct hp hroutine
  refine ⟨fun r hr => ?_, fun q hq hladder => ?_, horigin, fun hkind q hq => ?_⟩
  · rw [horigin.rungs] at hr
    rw [horigin.routines]
    exact exists_routine_of_rung hparts hr
  · obtain ⟨p, -, hroutine, hrungs⟩ := hpart q hq
    rw [hrungs]
    exact hroutine.counted hladder
  · obtain ⟨p, hp, hroutine, hrungs⟩ := hpart q hq
    obtain ⟨q', hq', hnumbered⟩ := routine_of_mem_routineParts hp
    obtain rfl : q' = q := hq'.unique hroutine
    rw [hrungs]
    exact hnumbered hkind

/-- The bytes of a file whose add-on instruction and program share their name and that of a routine. -/
def namesakeFile : List UInt8 :=
  (["CONTROLLER C", "ADD_ON_INSTRUCTION_DEFINITION P", "ROUTINE R", "N: NOP();", "END_ROUTINE",
    "END_ADD_ON_INSTRUCTION_DEFINITION", "PROGRAM P", "ROUTINE R", "N: XIC(A);", "N: OTE(B);", "END_ROUTINE",
    "ST_ROUTINE S", "END_ST_ROUTINE", "END_PROGRAM", "END_CONTROLLER"].flatMap fun line =>
      line.toList ++ ['\n']).map fun c => UInt8.ofNat c.toNat

theorem parse_rungs_accounted_namesake : ∃ d, (parse {} .l5k namesakeFile).result = .ok d ∧
    (d.routines.map Routine.place).Nodup ∧ d.rungs.map (·.logicText) = ["XIC(A)", "OTE(B)"] ∧
    d.RungsAccounted .l5k namesakeFile := by
  have hread : ((parse {} .l5k namesakeFile).result.toOption.map fun d =>
      (d.routines.map Routine.place, d.rungs.map (·.logicText))) =
        some ([("P", "R"), ("P", "S")], ["XIC(A)", "OTE(B)"]) := by
    decide +kernel
  cases hd : (parse {} .l5k namesakeFile).result with
  | error e =>
    rw [hd] at hread
    cases hread
  | ok d =>
    rw [hd] at hread
    obtain ⟨hroutines, hrungs⟩ := Prod.mk.inj (Option.some.inj hread)
    have hdistinct : (d.routines.map Routine.place).Nodup := by
      rw [hroutines]
      decide
    exact ⟨d, rfl, hdistinct, hrungs, parse_rungs_accounted _ _ _ d hd hdistinct⟩

end Document

end LadderAtlas
