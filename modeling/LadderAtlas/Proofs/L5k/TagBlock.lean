import LadderAtlas.Document.Parse
import LadderAtlas.Proofs.Document.Escapes
import LadderAtlas.Proofs.L5k.Blocks
import LadderAtlas.Proofs.L5k.Statements

/-! # The tags of a controller

The blocks of a controller are read one by one, and of all of them only its tag blocks give tags that belong
to the controller: `controllerNames_part`. So a file with one such block (`TagFile`) is read, and the names
of its tags are those of the declarations in the block, in their order: `TagFile.WellFormed.read`. -/

namespace LadderAtlas

namespace Reading
variable {α β : Type}

theorem result_bind (x : Reading α) (f : α → Reading β) :
    (x >>= f : Reading β).result = x.result >>= fun a => (f a).result := by
  cases x with
  | error e => rfl
  | ok a =>
    show (Reading.bind (.ok a) f).result = (f a.value).result
    rw [bind_ok]
    cases f a.value <;> rfl

theorem result_ofExcept (x : Except Failure α) : (ofExcept x).result = x := by
  cases x <;> rfl

theorem result_each_cons (f : α → Reading β) (a : α) (l : List α) :
    (each f (a :: l)).result = (f a).result >>= fun b => (each f l).result >>= fun m => .ok (b :: m) := by
  rw [each, result_bind]
  refine bind_congr fun b => ?_
  rw [result_bind]
  rfl

theorem exists_result_each {f : α → Reading β} {l : List α} (h : ∀ a ∈ l, ∃ b, (f a).result = .ok b) :
    ∃ m, (each f l).result = .ok m := by
  induction l with
  | nil => exact ⟨[], rfl⟩
  | cons a l ih =>
    obtain ⟨b, hb⟩ := h a (by simp)
    obtain ⟨m, hm⟩ := ih fun c hc => h c (List.mem_cons_of_mem _ hc)
    exact ⟨b :: m, by rw [result_each_cons, hb, hm]; rfl⟩

theorem flatMap_of_result_each {γ : Type} {f : α → Reading β} {g : β → List γ} {k : α → List γ}
    (h : ∀ a b, (f a).result = .ok b → g b = k a) {l : List α} {m : List β} (hm : (each f l).result = .ok m) :
    m.flatMap g = l.flatMap k := by
  induction l generalizing m with
  | nil =>
    obtain rfl := Except.ok.inj hm
    rfl
  | cons a l ih =>
    rw [result_each_cons] at hm
    cases hb : (f a).result with
    | error e =>
      rw [hb] at hm
      cases hm
    | ok b =>
      cases hl : (each f l).result with
      | error e =>
        rw [hb, hl] at hm
        cases hm
      | ok n =>
        rw [hb, hl] at hm
        obtain rfl := Except.ok.inj hm
        rw [List.flatMap_cons, List.flatMap_cons, h a b hb, ih hl]

end Reading

namespace L5k
open Text

/-! ### Blocks of a controller -/

/-- The names that the lines of a block declare. -/
def declaredNames (lines : List (List Char)) : List String :=
  ((statements lines).filterMap Declaration.parse?).map (·.name)

theorem value_collect (lines : List (List Char)) :
    (Declaration.collect lines).value = (statements lines).filterMap Declaration.parse? := by
  simp only [Declaration.collect, Noted.value_bind, Noted.value_pure, Noted.value_each, List.filterMap_map]
  refine congrArg (List.filterMap · (statements lines)) (funext fun s => ?_)
  rw [Function.comp_apply, id_eq]
  cases Declaration.parse? s <;> rfl

theorem names_tags (scope : String) (b : Block) : (tags scope b).value.map (·.name) = declaredNames b.body := by
  simp [tags, value_collect, declaredNames, Function.comp_def]

theorem scope_tags {scope : String} {b : Block} {t : Tag} (h : t ∈ (tags scope b).value) : t.scope = scope := by
  simp only [tags, Noted.value_bind, Noted.value_pure, List.mem_map] at h
  obtain ⟨d, -, rfl⟩ := h
  rfl

theorem programScope_ne (program : String) : programScope program ≠ controllerScope := by
  intro h
  have hhead := congrArg (fun s : String => s.toList.head?) h
  simp [programScope, programScopePrefix, controllerScope] at hhead

/-- The names of the tags that belong to the controller. -/
def controllerNames (c : Contents) : List String := (c.tags.filter (·.isControllerScoped)).map (·.name)

@[simp] theorem controllerNames_append (c d : Contents) :
    controllerNames (c ++ d) = controllerNames c ++ controllerNames d := by
  show ((c.tags ++ d.tags).filter _).map _ = _
  rw [List.filter_append, List.map_append, controllerNames, controllerNames]

theorem controllerNames_join (l : List Contents) : controllerNames (Contents.join l) = l.flatMap controllerNames := by
  induction l with
  | nil => rfl
  | cons c l ih => rw [Contents.join, controllerNames_append, ih, List.flatMap_cons]

theorem controllerNames_eq_nil {c : Contents} (h : ∀ t ∈ c.tags, t.scope ≠ controllerScope) :
    controllerNames c = [] := by
  refine List.map_eq_nil_iff.2 (List.filter_eq_nil_iff.2 fun t ht => ?_)
  simpa [Tag.isControllerScoped] using h t ht

theorem controllerNames_program (b : Block) {c : Contents} (h : (program b).result = .ok c) :
    controllerNames c = [] := by
  rw [program, Reading.result_bind] at h
  cases hinner : (blocks ("TAG" :: routineKeywords) b.body).result with
  | error e =>
    rw [hinner] at h
    cases h
  | ok inner =>
    rw [hinner] at h
    have hc : c = { sections := [.programs] } ++ Contents.join (Noted.each (programPart b.name) inner).value :=
      (Except.ok.inj h).symm
    have hpart : ∀ i, controllerNames (programPart b.name i).value = [] := by
      intro i
      refine controllerNames_eq_nil fun t ht => ?_
      unfold programPart at ht
      split at ht
      · rw [scope_tags ht]
        exact programScope_ne _
      · exact absurd ht List.not_mem_nil
    rw [hc, controllerNames_append, controllerNames_join, Noted.value_each, List.flatMap_map,
      List.flatMap_eq_nil_iff.2 fun i _ => hpart i]
    rfl

/-- Of the blocks of a controller only the tag blocks give tags that belong to it. -/
theorem controllerNames_part (b : Block) (c : Contents) (h : (part b).result = .ok c) :
    controllerNames c = if b.keyword = "TAG" then declaredNames b.body else [] := by
  unfold part at h
  split at h
  · rename_i hk
    obtain rfl := Except.ok.inj h
    rw [if_pos hk, ← names_tags controllerScope b]
    refine congrArg (List.map _) (List.filter_eq_self.2 fun t ht => ?_)
    simp [Tag.isControllerScoped, scope_tags ht]
  · rename_i hk
    obtain rfl := Except.ok.inj h
    rw [hk]
    rfl
  · rename_i hk
    rw [Reading.result_bind] at h
    cases haoi : (aoi b).result with
    | error e =>
      rw [haoi] at h
      cases h
    | ok a =>
      rw [haoi] at h
      obtain rfl := Except.ok.inj h
      rw [hk]
      rfl
  · rename_i hk
    obtain rfl := Except.ok.inj h
    rw [hk]
    rfl
  · rename_i hk
    rw [controllerNames_program b h, hk]
    rfl
  · rename_i hk _ _ _ _
    obtain rfl := Except.ok.inj h
    rw [if_neg hk]
    rfl

end L5k

/-! ### Files with one tag block -/

namespace L5k
open Text
open Ladder (IsBlankText)

/-- Lines of a controller whose blocks can be read and are no tag blocks. -/
def OtherParts (lines : List (List Char)) : Prop :=
  ∃ bs, Block.collect controllerKeywords lines = .ok bs ∧
    ∀ b ∈ bs, b.keyword ≠ "TAG" ∧ ∃ c, (part b).result = .ok c

/-- A file with a controller that has one tag block, told by its lines. -/
structure TagFile where
  before : List (List Char) := []
  opening : List Char
  header : List (List Char) := []
  /-- The lines of the controller before its tag block. -/
  lead : List (List Char) := []
  tags : BlockText
  /-- The lines of the controller after its tag block. -/
  rest : List (List Char) := []
  closing : List Char
  after : List (List Char) := []

namespace TagFile

def controller (f : TagFile) : BlockText :=
  { opening := f.opening, header := f.header, body := f.lead ++ (f.tags.lines ++ f.rest), closing := f.closing }

def lines (f : TagFile) : List (List Char) := f.before ++ (f.controller.lines ++ f.after)

/-- Controller and tags are blocks as they should be, and what is around them can be read. -/
structure WellFormed (f : TagFile) : Prop where
  before : Unled "CONTROLLER" f.before
  controller : f.controller.IsBlock "CONTROLLER"
  lead : OtherParts f.lead
  tags : f.tags.IsBlock "TAG"
  rest : OtherParts f.rest
  after : ∃ bs, Block.collect ["CONTROLLER"] f.after = .ok bs

variable {f : TagFile}

theorem WellFormed.collect (h : f.WellFormed) :
    ∃ others, Block.collect ["CONTROLLER"] f.lines = .ok (f.controller.block "CONTROLLER" :: others) := by
  obtain ⟨bs, hbs⟩ := h.after
  have hbefore : Block.collect ["CONTROLLER"] f.before = .ok [] := Block.collect_unled (by simpa using h.before)
  refine ⟨bs, ?_⟩
  rw [lines, Block.collect_append hbefore, h.controller.collect_lines (by simp), hbs]
  rfl

theorem WellFormed.collect_parts (h : f.WellFormed) :
    ∃ lead rest, Block.collect controllerKeywords f.controller.body = .ok (lead ++ f.tags.block "TAG" :: rest) ∧
      ∀ b ∈ lead ++ rest, b.keyword ≠ "TAG" ∧ ∃ c, (part b).result = .ok c := by
  obtain ⟨lead, hlead, hl⟩ := h.lead
  obtain ⟨rest, hrest, hr⟩ := h.rest
  refine ⟨lead, rest, ?_, fun b hb => ?_⟩
  · show Block.collect controllerKeywords (f.lead ++ (f.tags.lines ++ f.rest)) = _
    rw [Block.collect_append hlead, h.tags.collect_lines (by decide), hrest]
    rfl
  · rcases List.mem_append.1 hb with hb | hb
    · exact hl b hb
    · exact hr b hb

end TagFile

/-- A text has the lines of a file and states no revision that is refused. -/
structure IsText (f : TagFile) (s : List Char) : Prop where
  lines : Text.lines s = f.lines
  revision : ∃ r, checkRevision s = .ok r

theorem mem_of_mem_lines {s l : List Char} {c : Char} (hl : l ∈ Text.lines s) (hc : c ∈ l) : c ∈ s := by
  fun_induction Text.lines s generalizing l with
  | case1 => cases hl
  | case2 s ih =>
    rcases List.mem_cons.1 hl with rfl | hl
    · cases hc
    · exact List.mem_cons_of_mem _ (List.mem_cons_of_mem _ (ih hl hc))
  | case3 d s _ _ ih =>
    rcases List.mem_cons.1 hl with rfl | hl
    · cases hc
    · exact List.mem_cons_of_mem _ (ih hl hc)
  | case4 d s _ _ hnil ih =>
    obtain rfl := List.mem_singleton.1 hl
    obtain rfl := List.mem_singleton.1 hc
    exact List.mem_cons_self
  | case5 d s _ _ first others hs ih =>
    rcases List.mem_cons.1 hl with rfl | hl
    · rcases List.mem_cons.1 hc with rfl | hc
      · exact List.mem_cons_self
      · exact List.mem_cons_of_mem _ (ih (by simp [hs]) hc)
    · exact List.mem_cons_of_mem _ (ih (by simp [hs, hl]) hc)

namespace TagFile
variable {f : TagFile} {s : List Char}

theorem WellFormed.not_blank (h : f.WellFormed) (hs : IsText f s) : trim s ≠ [] := by
  have hopening : f.opening ∈ Text.lines s := by
    rw [hs.lines]
    simp only [TagFile.lines, BlockText.lines, List.mem_append, List.mem_cons]
    exact .inr (.inl (.inl rfl))
  have hline : ¬ IsBlankText f.opening := by
    intro hb
    have hword := h.controller.opening
    rw [show trim f.controller.opening = [] from (trim_eq_nil_iff _).2 hb] at hword
    cases hword
  intro hblank
  exact hline fun c hc => (trim_eq_nil_iff s).1 hblank c (mem_of_mem_lines hopening hc)

/-- A file with one tag block is read, and its controller has the tags that the block declares. -/
theorem WellFormed.read (h : f.WellFormed) (hs : IsText f s) :
    ∃ d : Document, (Document.ofL5k s).result = .ok d ∧ controllerNames d.toContents = declaredNames f.tags.body := by
  obtain ⟨others, hcontroller⟩ := h.collect
  obtain ⟨lead, rest, hparts, hothers⟩ := h.collect_parts
  obtain ⟨revision, hrevision⟩ := hs.revision
  have hread : ∀ b ∈ lead ++ f.tags.block "TAG" :: rest, ∃ c, (part b).result = .ok c := by
    intro b hb
    rcases List.mem_append.1 hb with hb | hb
    · exact (hothers b (by simp [hb])).2
    · rcases List.mem_cons.1 hb with rfl | hb
      · exact ⟨_, rfl⟩
      · exact (hothers b (by simp [hb])).2
  obtain ⟨cs, hcs⟩ := Reading.exists_result_each hread
  have hresult : (Document.ofL5k s).result = .ok { Contents.join cs with
      kind := .l5k, metadata := L5k.metadata revision (f.controller.block "CONTROLLER") } := by
    have hblocks : ∀ {keywords lines bs}, Block.collect keywords lines = .ok bs →
        (blocks keywords lines).result = .ok bs := by
      intro keywords lines bs hbs
      rw [blocks, hbs, Reading.result_ofExcept]
      rfl
    rw [Document.ofL5k, if_neg (by simpa using h.not_blank hs), Reading.result_bind, Reading.result_ofExcept,
      hrevision, hs.lines]
    show (blocks ["CONTROLLER"] f.lines >>= _ : Reading Document).result = _
    rw [Reading.result_bind, hblocks hcontroller]
    show (blocks controllerKeywords f.controller.body >>= _ : Reading Document).result = _
    rw [Reading.result_bind, hblocks hparts]
    show (Reading.each part _ >>= _ : Reading Document).result = _
    rw [Reading.result_bind, hcs]
    rfl
  refine ⟨_, hresult, ?_⟩
  show controllerNames (Contents.join cs) = _
  rw [controllerNames_join, Reading.flatMap_of_result_each controllerNames_part hcs, List.flatMap_append,
    List.flatMap_cons, List.flatMap_eq_nil_iff.2 fun b hb => if_neg (hothers b (by simp [hb])).1,
    List.flatMap_eq_nil_iff.2 fun b hb => if_neg (hothers b (by simp [hb])).1, if_pos (by rfl), List.append_nil]
  rfl

end TagFile

end L5k

end LadderAtlas
