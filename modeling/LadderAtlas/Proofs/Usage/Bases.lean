import LadderAtlas.Proofs.Usage.Wholes

/-!
# References to parts

When a reference to a part also uses the whole, it uses everything that is part of the whole as well: a tag is
used if it shares a whole with what is referred to, and two names share one if and only if they have the same
base (`exists_whole_iff`). So the tags without use are those whose base no reference has (`unusedTags_bases`). A
reference to one member of a structure uses its other members, too, although neither is part of the other
(`unusedTags_siblings`).
-/

namespace LadderAtlas

/-- One of two names stands for the other one, or for something that it is part of. -/
def Related (n m : QualifiedName) : Prop := n ∈ m.wholes ∨ m ∈ n.wholes

/-- A text is a written qualified name. -/
def Names (n : QualifiedName) (s : String) : Prop := n.WellFormed ∧ n.text = s

/-! ### The base of a name -/

section base
variable {n m w v : QualifiedName}

theorem base_of_mem_wholes (h : w ∈ n.wholes) : w.base = n.base := by
  obtain ⟨parts, -, rfl⟩ := List.mem_map.1 h
  rfl

theorem wellFormed_of_mem_wholes (hn : n.WellFormed) (h : w ∈ n.wholes) : w.WellFormed := by
  obtain ⟨parts, hparts, rfl⟩ := List.mem_map.1 h
  exact ⟨hn.ne_nil, hn.base, fun p hp => hn.parts p (((List.mem_inits _ _).1 hparts).subset hp)⟩

theorem base_mem_wholes (n : QualifiedName) : { base := n.base } ∈ n.wholes :=
  List.mem_map.2 ⟨[], (List.mem_inits _ _).2 List.nil_prefix, rfl⟩

theorem Related.base_eq (h : Related n m) : n.base = m.base := by
  rcases h with h | h
  · exact base_of_mem_wholes h
  · exact (base_of_mem_wholes h).symm

/-- The base of a written name ends at the first point or bracket. -/
theorem takeWhile_render (h : n.WellFormed) : n.render.takeWhile (fun c => c ≠ '.' && c ≠ '[') = n.base := by
  have hbase : ∀ c ∈ n.base, (c ≠ '.' && c ≠ '[') = true := by
    intro c hc
    obtain ⟨hpoint, hopen, -⟩ := h.base c hc
    simp [hpoint, hopen]
  rw [QualifiedName.render, List.takeWhile_append_of_pos hbase]
  cases hparts : n.parts with
  | nil => simp
  | cons p parts => cases p <;> simp [NamePart.render]

theorem base_eq_of_text_eq (hn : n.WellFormed) (hm : m.WellFormed) (h : n.text = m.text) : n.base = m.base := by
  have hrender : n.render = m.render := String.ofList_injective h
  rw [← takeWhile_render hn, hrender, takeWhile_render hm]

/-- Two names have a whole in common if and only if they have the same base. -/
theorem exists_whole_iff (hn : n.WellFormed) (hm : m.WellFormed) :
    (∃ w ∈ n.wholes, ∃ v ∈ m.wholes, w.text = v.text) ↔ m.base = n.base := by
  constructor
  · rintro ⟨w, hw, v, hv, htext⟩
    have hbase := base_eq_of_text_eq (wellFormed_of_mem_wholes hn hw) (wellFormed_of_mem_wholes hm hv) htext
    rw [← base_of_mem_wholes hw, hbase, base_of_mem_wholes hv]
  · intro h
    exact ⟨_, base_mem_wholes n, _, base_mem_wholes m, by rw [h]⟩

end base

/-! ### Use -/

section use
variable {references : List TagReference} {referenceName : TagReference → QualifiedName}

theorem mem_referencedNames_withWholes (hr : ∀ r ∈ references, Names (referenceName r) r.tagName) {s : String} :
    s ∈ referencedNames true references ↔ ∃ r ∈ references, ∃ v ∈ (referenceName r).wholes, v.text = s := by
  rw [referencedNames, if_pos rfl, List.mem_flatMap]
  refine exists_congr fun r => and_congr_right fun hmem => ?_
  rw [← (hr r hmem).2, pathPrefixes_render (hr r hmem).1, List.mem_map]

theorem isTagUsed_withWholes_iff (hr : ∀ r ∈ references, Names (referenceName r) r.tagName) {n : QualifiedName}
    (hn : n.WellFormed) : isTagUsed (referencedNames true references) n.text = true ↔
      ∃ r ∈ references, (referenceName r).base = n.base := by
  rw [isTagUsed_iff, pathPrefixes_render hn]
  constructor
  · rintro ⟨s, hs, href⟩
    obtain ⟨w, hw, rfl⟩ := List.mem_map.1 hs
    obtain ⟨r, hmem, v, hv, htext⟩ := (mem_referencedNames_withWholes hr).1 href
    exact ⟨r, hmem, (exists_whole_iff hn (hr r hmem).1).1 ⟨w, hw, v, hv, htext.symm⟩⟩
  · rintro ⟨r, hmem, hbase⟩
    obtain ⟨w, hw, v, hv, htext⟩ := (exists_whole_iff hn (hr r hmem).1).2 hbase
    exact ⟨w.text, List.mem_map_of_mem hw, (mem_referencedNames_withWholes hr).2 ⟨r, hmem, v, hv, htext.symm⟩⟩

/-- With references to parts counted for the wholes, a tag is without use if and only if no reference has its base.
A reference to the tag, to a part of it or to something it is part of has its base. -/
theorem unusedTags_bases (tags : List Tag) (references : List TagReference) (tagName : Tag → QualifiedName)
    (referenceName : TagReference → QualifiedName) (ht : ∀ t ∈ tags, Names (tagName t) t.name)
    (hr : ∀ r ∈ references, Names (referenceName r) r.tagName) :
    unusedTags true tags references =
      tags.filter (fun t => references.all fun r => (referenceName r).base ≠ (tagName t).base) ∧
    ∀ t ∈ tags, ∀ r ∈ references, Related (referenceName r) (tagName t) → t ∉ unusedTags true tags references := by
  have hfilter : unusedTags true tags references =
      tags.filter (fun t => references.all fun r => (referenceName r).base ≠ (tagName t).base) := by
    refine List.filter_congr fun t hmem => ?_
    obtain ⟨hn, htext⟩ := ht t hmem
    rw [← htext, Bool.eq_iff_iff, Bool.not_eq_true', Bool.eq_false_iff, ne_eq, isTagUsed_withWholes_iff hr hn]
    simp
  refine ⟨hfilter, fun t _ r hmem hrelated hunused => ?_⟩
  rw [hfilter, List.mem_filter, List.all_eq_true] at hunused
  have hne := hunused.2 r hmem
  rw [decide_eq_true_iff] at hne
  exact hne hrelated.base_eq

end use

/-- The name of a member of `Motor1`. -/
def motorMember (name : String) : QualifiedName := { base := "Motor1".toList, parts := [.member name.toList] }

theorem motorMember_wellFormed {name : String} (h : IsSimple name.toList) : (motorMember name).WellFormed where
  ne_nil := show "Motor1".toList ≠ [] by decide
  base := show IsSimple "Motor1".toList by decide
  parts p hp := by
    rw [List.mem_singleton.1 hp]
    exact h

def speedTag : Tag := { name := (motorMember "Speed").text, dataType := "REAL" }

def runningReference : TagReference := ⟨(motorMember "Running").text, "P", "R", 0, .read, "XIC", none, none⟩

theorem unusedTags_bases_spare :
    unusedTags true [speedTag, rackTag, { name := "Spare", dataType := "TIMER" }] [runningReference] =
      [rackTag, { name := "Spare", dataType := "TIMER" }] := by
  -- Each name is read off the tag's, and the one reference has one name.
  let tagName (t : Tag) : QualifiedName :=
    if t.name = speedTag.name then motorMember "Speed" else if t.name = rackTag.name then rackData
    else { base := "Spare".toList }
  have hspare : ({ base := "Spare".toList } : QualifiedName).WellFormed := ⟨by decide, by decide, by simp⟩
  have ht : ∀ t ∈ [speedTag, rackTag, { name := "Spare", dataType := "TIMER" }], Names (tagName t) t.name := by
    intro t ht
    simp only [List.mem_cons, List.not_mem_nil, or_false] at ht
    rcases ht with rfl | rfl | rfl
    · exact ⟨motorMember_wellFormed (by decide), rfl⟩
    · exact ⟨rackData_wellFormed, rfl⟩
    · exact ⟨hspare, rfl⟩
  have hr : ∀ r ∈ [runningReference], Names (motorMember "Running") r.tagName := by
    intro r hr
    rw [List.mem_singleton.1 hr]
    exact ⟨motorMember_wellFormed (by decide), rfl⟩
  rw [(unusedTags_bases _ _ tagName (fun _ => motorMember "Running") ht hr).1]
  rfl

/-- A reference to `Motor1.Running` uses `Motor1.Speed`. -/
theorem unusedTags_siblings :
    Names (motorMember "Speed") speedTag.name ∧ Names (motorMember "Running") runningReference.tagName ∧
    ¬ Related (motorMember "Running") (motorMember "Speed") ∧ unusedTags true [speedTag] [runningReference] = [] := by
  refine ⟨⟨motorMember_wellFormed (by decide), rfl⟩, ⟨motorMember_wellFormed (by decide), rfl⟩, ?_, by decide +kernel⟩
  rintro (h | h)
  · exact absurd (List.mem_map_of_mem (f := (·.text)) h) (by decide +kernel)
  · exact absurd (List.mem_map_of_mem (f := (·.text)) h) (by decide +kernel)

end LadderAtlas
