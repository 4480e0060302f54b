import LadderAtlas.Document.Invariants
import LadderAtlas.Proofs.Diff.Report

/-! # Tags in several scopes

One name may stand for a tag of the controller and for tags of programs, but tags are compared by name, and
the first tag with a name counts. So a report without changes of tags says that the first tags agree
(`compareTags_eq_empty_iff`), which is everything about the names that belong to one scope
(`tags_unchanged_iff`). It says nothing about other tags with the name of the first
(`compare_misses_retyping`). -/

namespace LadderAtlas.Diff
open Changes Document

/-- A name is declared in one scope at most. -/
def OneScope (d : Document) (name : String) : Prop :=
  ∀ a ∈ d.tags, ∀ b ∈ d.tags, a.name = name → b.name = name → a.scope = b.scope

/-- Two documents declare a name in the same scopes, in each with the same type and description. -/
structure SameDeclarations (old new : Document) (name : String) : Prop where
  scopes : ∀ scope, (scope, name) ∈ old.tags.map tagKey ↔ (scope, name) ∈ new.tags.map tagKey
  facts : ∀ a ∈ old.tags, ∀ b ∈ new.tags, a.name = name → tagKey a = tagKey b →
    a.dataType = b.dataType ∧ a.description = b.description

theorem compareTags_eq_empty_iff (old new : List Tag) :
    compareTags old new = empty ↔ SameFirsts (·.name) SameTag old new :=
  (isDifference_compareTags old new).eq_empty_iff

/-- A tag whose name belongs to one scope is the first with its name. -/
theorem isFirst_of_oneScope {d : Document} (hd : (d.tags.map tagKey).Nodup) {a : Tag} (ha : a ∈ d.tags)
    (h : OneScope d a.name) : IsFirst (·.name) d.tags a := by
  obtain ⟨before, after, htags, hkey⟩ := (isFirst_iff_mem hd).2 ha
  refine ⟨before, after, htags, fun x hx hname => hkey x hx ?_⟩
  have hscope : x.scope = a.scope := h x (by simp [htags, hx]) a ha hname rfl
  exact Prod.ext hscope hname

theorem sameDeclarations_of_sameFirsts {old new : Document} (ho : (old.tags.map tagKey).Nodup)
    (hn : (new.tags.map tagKey).Nodup) (h : SameFirsts (·.name) SameTag old.tags new.tags) {name : String}
    (hold : OneScope old name) (hnew : OneScope new name) : SameDeclarations old new name := by
  refine ⟨fun scope => ⟨fun hs => ?_, fun hs => ?_⟩, fun a ha b hb hname hkey => ?_⟩
  · obtain ⟨a, ha, hkey⟩ := List.mem_map.1 hs
    obtain ⟨rfl, rfl⟩ := Prod.mk.inj hkey
    obtain ⟨b, hb, hname, hsame⟩ := h.kept a (isFirst_of_oneScope ho ha hold)
    exact List.mem_map.2 ⟨b, hb.mem, Prod.ext hsame.2.1.symm hname.symm⟩
  · obtain ⟨b, hb, hkey⟩ := List.mem_map.1 hs
    obtain ⟨rfl, rfl⟩ := Prod.mk.inj hkey
    obtain ⟨a, ha, hname, hsame⟩ := h.known b (isFirst_of_oneScope hn hb hnew)
    exact List.mem_map.2 ⟨a, ha.mem, Prod.ext hsame.2.1 hname⟩
  · obtain ⟨-, hab⟩ := Prod.mk.inj hkey
    have hfirst : IsFirst (·.name) new.tags b := isFirst_of_oneScope hn hb (hab ▸ hname ▸ hnew)
    obtain ⟨b', hb', hname', hsame⟩ := h.kept a (isFirst_of_oneScope ho ha (hname ▸ hold))
    obtain rfl := hb'.unique hfirst (hname'.symm.trans hab)
    exact ⟨hsame.1, hsame.2.2⟩

namespace Report

/-- Of documents that are not refused, a report without changes of tags says that the first tags with each
name agree. Then the names that neither document has in several scopes are declared alike. -/
theorem tags_unchanged_iff (old new : Document) (ho : old.check = .ok ()) (hn : new.check = .ok ()) :
    ((compare old new).tags = Changes.empty ↔ SameFirsts (·.name) SameTag old.tags new.tags) ∧
    ((compare old new).tags = Changes.empty → ∀ name, OneScope old name → OneScope new name →
      SameDeclarations old new name) := by
  have hiff := compareTags_eq_empty_iff old.tags new.tags
  refine ⟨hiff, fun h name hold hnew => ?_⟩
  exact sameDeclarations_of_sameFirsts (nodup_tagKeys_of_check ho) (nodup_tagKeys_of_check hn) (hiff.1 h) hold hnew

theorem tags_unchanged_pump :
    (ofTags pumpBefore).check = .ok () ∧ (ofTags pumpBefore.reverse).check = .ok () ∧
    SameDeclarations (ofTags pumpBefore) (ofTags pumpBefore.reverse) "Speed" := by
  have hreordered : Reordered (ofTags pumpBefore) (ofTags pumpBefore.reverse) :=
    ⟨(List.reverse_perm _).symm, .refl _, .refl _, .refl _, .refl _, .refl _⟩
  have hkeys : DistinctBy (·.name) pumpBefore pumpBefore := ⟨by decide, by decide⟩
  have hsame : (compare (ofTags pumpBefore) (ofTags pumpBefore.reverse)).tags = Changes.empty := by
    rw [(agreesOnDistinct_compare (.refl _) hreordered).tags hkeys, compare_self]
    rfl
  obtain ⟨-, hdeclared⟩ := tags_unchanged_iff (ofTags pumpBefore) (ofTags pumpBefore.reverse) rfl rfl
  exact ⟨rfl, rfl, hdeclared hsame "Speed" (by unfold OneScope; decide) (by unfold OneScope; decide)⟩

/-- A tag of the controller and one of a program under one name. -/
def runTwice (programType : String) : Document :=
  ofTags [{ name := "Run", dataType := "BOOL" },
    { name := "Run", dataType := programType, scope := programScope "Main" }]

/-- That the tag of a program has changed its type is not reported where the controller has one of its
name. -/
theorem compare_misses_retyping :
    (runTwice "BOOL").check = .ok () ∧ (runTwice "DINT").check = .ok () ∧
    (compare (runTwice "BOOL") (runTwice "DINT")).tags = Changes.empty ∧
    ¬ SameDeclarations (runTwice "BOOL") (runTwice "DINT") "Run" := by
  have hfirst : ∀ type a, IsFirst (·.name) (runTwice type).tags a ↔ a = { name := "Run", dataType := "BOOL" } := by
    intro type a
    refine ⟨fun h => ?_, fun h => h ▸ ⟨[], _, rfl, by simp⟩⟩
    have hname : a.name = "Run" := by
      have hmem := h.mem
      simp only [runTwice, ofTags, List.mem_cons, List.not_mem_nil, or_false] at hmem
      rcases hmem with rfl | rfl <;> rfl
    exact h.unique ⟨[], _, rfl, by simp⟩ hname
  refine ⟨by rfl, by rfl, ?_, fun h => ?_⟩
  · refine (compareTags_eq_empty_iff _ _).2 ⟨fun a ha => ?_, fun b hb => ?_⟩
    · exact ⟨a, (hfirst _ _).2 ((hfirst _ _).1 ha), rfl, rfl, rfl, rfl⟩
    · exact ⟨b, (hfirst _ _).2 ((hfirst _ _).1 hb), rfl, rfl, rfl, rfl⟩
  · have htype := (h.facts _ (.tail _ (.head _)) _ (.tail _ (.head _)) rfl rfl).1
    exact absurd htype (by decide)

end Report

end LadderAtlas.Diff
