import LadderAtlas.Project
import LadderAtlas.Proofs.Ladder.Paths
import Mathlib.Data.List.Infix

/-!
# What a qualified name is part of

`pathPrefixes_render`: the prefixes of a qualified name are its initial segments, no matter what its indices
hold. A point or bracket inside an index does not cut the name, since the scan is one bracket deep there
(`pathPrefixesFrom_balanced`); each part outside is cut off once, where it begins (`pathPrefixesFrom_part`).
With it, what `unusedTags` lists is told without the scan (`unusedTags_wholes`).
-/

namespace LadderAtlas

/-- Texts without points and brackets. -/
def IsSimple (s : List Char) : Prop := ∀ c ∈ s, c ≠ '.' ∧ c ≠ '[' ∧ c ≠ ']'

instance (s : List Char) : Decidable (IsSimple s) :=
  List.decidableBAll (fun c => c ≠ '.' ∧ c ≠ '[' ∧ c ≠ ']') s

/-- What may follow the base of a qualified name. -/
inductive NamePart where
  | member (name : List Char)
  | index (inside : List Char)

namespace NamePart

def render : NamePart → List Char
  | member name => '.' :: name
  | index inside => '[' :: inside ++ [']']

def WellFormed : NamePart → Prop
  | member name => IsSimple name
  | index inside => Balanced inside

end NamePart

/-- The name of a tag, or of a part of one. -/
structure QualifiedName where
  base : List Char
  parts : List NamePart := []

namespace QualifiedName

def render (n : QualifiedName) : List Char := n.base ++ n.parts.flatMap (·.render)

def text (n : QualifiedName) : String := String.ofList n.render

structure WellFormed (n : QualifiedName) : Prop where
  ne_nil : n.base ≠ []
  base : IsSimple n.base
  parts : ∀ p ∈ n.parts, p.WellFormed

/-- The base, the base with the first part, and so on up to the name itself. -/
def wholes (n : QualifiedName) : List QualifiedName := n.parts.inits.map fun l => { n with parts := l }

end QualifiedName

/-! ### The scan -/

section scan
variable {t : List Char} {depth : Nat}

theorem pathPrefixesFrom_simple (ht : IsSimple t) (read s : List Char) :
    pathPrefixesFrom depth read (t ++ s) = pathPrefixesFrom depth (t.reverse ++ read) s := by
  induction t generalizing read with
  | nil => rfl
  | cons c t ih =>
    obtain ⟨hpoint, hopen, hclose⟩ := ht c (by simp)
    have hcons : pathPrefixesFrom depth read (c :: (t ++ s)) = pathPrefixesFrom depth (c :: read) (t ++ s) := by
      simp [pathPrefixesFrom, hpoint, hopen, hclose]
    rw [List.cons_append, hcons, ih fun d hd => ht d (List.mem_cons_of_mem c hd)]
    simp

/-- Inside brackets nothing is cut. -/
theorem pathPrefixesFrom_balanced (ht : Balanced t) (read s : List Char) :
    pathPrefixesFrom (depth + 1) read (t ++ s) = pathPrefixesFrom (depth + 1) (t.reverse ++ read) s := by
  induction ht generalizing depth read s with
  | nil => rfl
  | @plain c t hopen hclose _ ih =>
    have hcons : pathPrefixesFrom (depth + 1) read (c :: (t ++ s)) =
        pathPrefixesFrom (depth + 1) (c :: read) (t ++ s) := by
      simp [pathPrefixesFrom, hopen, hclose]
    rw [List.cons_append, hcons, ih]
    simp
  | @group u v _ _ ihu ihv =>
    have hopened : ∀ r, pathPrefixesFrom (depth + 1) read ('[' :: r) =
        pathPrefixesFrom (depth + 2) ('[' :: read) r := by
      intro r
      simp [pathPrefixesFrom]
    have hclosed : ∀ l r, pathPrefixesFrom (depth + 2) l (']' :: r) = pathPrefixesFrom (depth + 1) (']' :: l) r := by
      intro l r
      simp [pathPrefixesFrom]
    rw [List.append_assoc, List.cons_append, hopened, ihu, List.cons_append, hclosed, ihv]
    simp

/-- A part is cut off where it begins. -/
theorem pathPrefixesFrom_part {p : NamePart} (hp : p.WellFormed) {read : List Char} (hread : read ≠ [])
    (s : List Char) :
    pathPrefixesFrom 0 read (p.render ++ s) = read.reverse :: pathPrefixesFrom 0 (p.render.reverse ++ read) s := by
  have hne : read.isEmpty = false := by simpa using hread
  cases p with
  | member name =>
    have hpoint : pathPrefixesFrom 0 read ('.' :: (name ++ s)) =
        read.reverse :: pathPrefixesFrom 0 ('.' :: read) (name ++ s) := by
      simp [pathPrefixesFrom, hne]
    rw [NamePart.render, List.cons_append, hpoint, pathPrefixesFrom_simple hp]
    simp
  | index inside =>
    have hopened : ∀ r, pathPrefixesFrom 0 read ('[' :: r) = read.reverse :: pathPrefixesFrom 1 ('[' :: read) r := by
      intro r
      simp [pathPrefixesFrom, hne]
    have hclosed : ∀ l r, pathPrefixesFrom 1 l (']' :: r) = pathPrefixesFrom 0 (']' :: l) r := by
      intro l r
      simp [pathPrefixesFrom]
    rw [NamePart.render, List.append_assoc, List.cons_append, hopened, pathPrefixesFrom_balanced hp,
      List.singleton_append, hclosed]
    simp

theorem pathPrefixesFrom_parts {parts : List NamePart} (hparts : ∀ p ∈ parts, p.WellFormed) {read : List Char}
    (hread : read ≠ []) : pathPrefixesFrom 0 read (parts.flatMap (·.render)) =
      parts.inits.map fun l => read.reverse ++ l.flatMap (·.render) := by
  induction parts generalizing read with
  | nil => simp [pathPrefixesFrom]
  | cons p parts ih =>
    have hp : p.WellFormed := hparts p (by simp)
    have hne : p.render.reverse ++ read ≠ [] := by simp [hread]
    rw [List.flatMap_cons, pathPrefixesFrom_part hp hread, ih (fun q hq => hparts q (List.mem_cons_of_mem p hq)) hne]
    simp

end scan

/-- The prefixes of a name are its initial segments, shortest first. -/
theorem pathPrefixes_render {n : QualifiedName} (h : n.WellFormed) : pathPrefixes n.text = n.wholes.map (·.text) := by
  have hne : n.base.reverse ≠ [] := by simpa using h.ne_nil
  rw [pathPrefixes, QualifiedName.text, String.toList_ofList, QualifiedName.render, pathPrefixesFrom_simple h.base,
    List.append_nil, pathPrefixesFrom_parts h.parts hne, QualifiedName.wholes, List.map_map, List.map_map]
  simp [Function.comp_def, QualifiedName.text, QualifiedName.render]

/-! ### Use -/

theorem isTagUsed_iff {referenced : List String} {name : String} :
    isTagUsed referenced name = true ↔ ∃ w ∈ pathPrefixes name, w ∈ referenced := by
  simp [isTagUsed]

theorem isTagUsed_mono {referenced referenced' : List String} (h : referenced ⊆ referenced') {name : String}
    (hu : isTagUsed referenced name = true) : isTagUsed referenced' name = true := by
  obtain ⟨w, hw, hr⟩ := isTagUsed_iff.1 hu
  exact isTagUsed_iff.2 ⟨w, hw, h hr⟩

theorem referencedNames_mono (withWholes : Bool) {references references' : List TagReference}
    (h : references ⊆ references') : referencedNames withWholes references ⊆ referencedNames withWholes references' := by
  intro name hname
  cases withWholes with
  | false =>
    obtain ⟨r, hr, rfl⟩ := List.mem_map.1 hname
    exact List.mem_map.2 ⟨r, h hr, rfl⟩
  | true =>
    obtain ⟨r, hr, hmem⟩ := List.mem_flatMap.1 hname
    exact List.mem_flatMap.2 ⟨r, h hr, hmem⟩

theorem mem_unusedTags {withWholes : Bool} {tags : List Tag} {references : List TagReference} {t : Tag} :
    t ∈ unusedTags withWholes tags references ↔
      t ∈ tags ∧ isTagUsed (referencedNames withWholes references) t.name = false := by
  simp [unusedTags]

/-- More references leave no more tags unused. -/
theorem unusedTags_antitone (withWholes : Bool) (tags : List Tag) {references references' : List TagReference}
    (h : references ⊆ references') : unusedTags withWholes tags references' ⊆ unusedTags withWholes tags references := by
  intro t ht
  obtain ⟨hmem, hunused⟩ := mem_unusedTags.1 ht
  refine mem_unusedTags.2 ⟨hmem, Bool.eq_false_iff.2 fun hused => ?_⟩
  have hused' := isTagUsed_mono (referencedNames_mono withWholes h) hused
  rw [hunused] at hused'
  cases hused'

theorem isTagUsed_eq_false_iff {n : QualifiedName} (h : n.WellFormed) (references : List TagReference) :
    isTagUsed (referencedNames false references) n.text = false ↔
      ∀ w ∈ n.wholes, ∀ r ∈ references, r.tagName ≠ w.text := by
  rw [Bool.eq_false_iff, ne_eq, isTagUsed_iff, pathPrefixes_render h]
  constructor
  · intro hno w hw r hr he
    exact hno ⟨w.text, List.mem_map.2 ⟨w, hw, rfl⟩, List.mem_map.2 ⟨r, hr, he⟩⟩
  · rintro hall ⟨name, hname, href⟩
    obtain ⟨w, hw, rfl⟩ := List.mem_map.1 hname
    obtain ⟨r, hr, he⟩ := List.mem_map.1 href
    exact hall w hw r hr he

namespace Project

/-- A project has grown: each snapshot is still there, perhaps with more references. -/
def Grown (p q : Project) : Prop :=
  q.options = p.options ∧ ∀ s ∈ p.snapshots, ∃ s' ∈ q.snapshots, s'.document = s.document ∧ s.references ⊆ s'.references

variable {p q : Project}

theorem Grown.tags (h : p.Grown q) : p.tags ⊆ q.tags := by
  intro t ht
  obtain ⟨s, hs, hmem⟩ := List.mem_flatMap.1 ht
  obtain ⟨s', hs', hd, -⟩ := h.2 s hs
  exact List.mem_flatMap.2 ⟨s', hs', hd ▸ hmem⟩

theorem Grown.references (h : p.Grown q) : p.references ⊆ q.references := by
  intro r hr
  obtain ⟨s, hs, hmem⟩ := List.mem_flatMap.1 hr
  obtain ⟨s', hs', -, hrefs⟩ := h.2 s hs
  exact List.mem_flatMap.2 ⟨s', hs', hrefs hmem⟩

/-- What is unused in a grown project was unused before. -/
theorem Grown.unused (h : p.Grown q) {t : Tag} (ht : t ∈ p.tags) (hq : t ∈ q.unused) : t ∈ p.unused := by
  have hq' : t ∈ unusedTags p.options.includeMemberReferences q.tags q.references := h.1 ▸ hq
  have hp := unusedTags_antitone p.options.includeMemberReferences q.tags h.references hq'
  exact mem_unusedTags.2 ⟨ht, (mem_unusedTags.1 hp).2⟩

end Project

/-- Unused are the tags none of whose wholes, the name itself among them, is referred to; and a project that
grows makes no used tag unused. -/
theorem unusedTags_wholes :
    (∀ n : QualifiedName, n.WellFormed → pathPrefixes n.text = n.wholes.map (·.text)) ∧
    (∀ (tags : List Tag) (references : List TagReference),
      ∃ unused : Tag → Bool, unusedTags false tags references = tags.filter unused ∧
        ∀ t ∈ tags, ∀ n : QualifiedName, n.WellFormed → n.text = t.name →
          (unused t = true ↔ ∀ w ∈ n.wholes, ∀ r ∈ references, r.tagName ≠ w.text)) ∧
    ∀ p q : Project, p.Grown q → ∀ t ∈ p.tags, t ∉ p.unused → t ∈ q.tags ∧ t ∉ q.unused := by
  refine ⟨fun n h => pathPrefixes_render h, fun tags references => ⟨_, rfl, fun t _ n hn hname => ?_⟩, ?_⟩
  · rw [Bool.not_eq_true', ← hname, isTagUsed_eq_false_iff hn]
  · intro p q h t ht hused
    exact ⟨h.tags ht, fun hq => hused (h.unused ht hq)⟩

/-- The name `Rack[Io[1].Slot][2].Data`. -/
def rackData : QualifiedName where
  base := "Rack".toList
  parts := [.index "Io[1].Slot".toList, .index "2".toList, .member "Data".toList]

theorem rackData_wellFormed : rackData.WellFormed where
  ne_nil := by decide
  base := by decide
  parts := by
    have hinner : Balanced "Io[1].Slot".toList := by
      have h1 : Balanced ['1'] := .of_plain (by simp)
      have hslot : Balanced ".Slot".toList := .of_plain (by simp)
      exact .plain (by decide) (by decide) (.plain (by decide) (by decide) (.group h1 hslot))
    intro p hp
    simp only [rackData, List.mem_cons, List.not_mem_nil, or_false] at hp
    rcases hp with rfl | rfl | rfl
    · exact hinner
    · exact .of_plain (by simp)
    · show IsSimple "Data".toList
      decide

def rackTag : Tag := { name := rackData.text, dataType := "DINT" }

/-- An export that declares two tags; its rung refers to a whole of the first and to a part of the second. -/
def rackSnapshot : Snapshot where
  fileId := "F"
  versionId := "V"
  document := { kind := .l5k, tags := [rackTag, { name := "Spare", dataType := "TIMER" }] }
  references := ["Rack[Io[1].Slot]", "Spare.DN"].map fun name => ⟨name, "P", "R", 0, .read, "XIC", none, none⟩

theorem unusedTags_wholes_rack :
    rackData.WellFormed ∧ pathPrefixes rackData.text =
      ["Rack", "Rack[Io[1].Slot]", "Rack[Io[1].Slot][2]", "Rack[Io[1].Slot][2].Data"] ∧
    (Project.mk [rackSnapshot] {}).unused.map (·.name) = ["Spare"] ∧
    ∀ s : Snapshot, rackTag ∉ (Project.mk [rackSnapshot, s] {}).unused := by
  have hprefixes := unusedTags_wholes.1 rackData rackData_wellFormed
  obtain ⟨unused, hfilter, hunused⟩ := unusedTags_wholes.2.1 (Project.mk [rackSnapshot] {}).tags
    (Project.mk [rackSnapshot] {}).references
  have htag : rackTag ∈ (Project.mk [rackSnapshot] {}).tags := by simp [Project.tags, allTags, rackSnapshot]
  have hused : rackTag ∉ (Project.mk [rackSnapshot] {}).unused := by
    intro hmem
    have hlisted : rackTag ∈ unusedTags false (Project.mk [rackSnapshot] {}).tags
        (Project.mk [rackSnapshot] {}).references := hmem
    rw [hfilter] at hlisted
    have hkept : unused rackTag = true := (List.mem_filter.1 hlisted).2
    have hfree := (hunused rackTag htag rackData rackData_wellFormed rfl).1 hkept
    exact absurd hfree (by decide +kernel)
  refine ⟨rackData_wellFormed, hprefixes.trans (by decide +kernel), by decide +kernel, fun s => ?_⟩
  have hgrown : (Project.mk [rackSnapshot] {}).Grown ⟨[rackSnapshot, s], {}⟩ := by
    refine ⟨rfl, fun r hr => ⟨r, ?_, rfl, fun _ h => h⟩⟩
    rw [List.mem_singleton.1 hr]
    simp
  exact (unusedTags_wholes.2.2 _ _ hgrown rackTag htag hused).2

end LadderAtlas
