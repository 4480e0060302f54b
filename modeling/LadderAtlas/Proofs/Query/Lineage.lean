import LadderAtlas.Query.ModuleTree
import Mathlib.Data.List.Perm.Subperm
import Mathlib.Data.List.Nodup

/-!
# The way down and the way up

The tree of modules is grown from the roots down, and the path of a module is walked from it upwards. Both follow
the lines of ancestors, as told by `Lineage`: a module, its parent, and so on up to a root. The ways through the
tree are the lines of ancestors, each once (`mem_ways_tree`, `nodup_ways_tree`), and the path of a module that has
such a line is that line (`path_of_lineage`).

A module whose ancestors go round in a circle has no such line. Its path still ends, at the last ancestor that is
not on it already (`path_climbs`).
-/

namespace LadderAtlas

/-- A module that counts: the first with its name. -/
def IsKnown (l : List IoModule) (m : IoModule) : Prop := l.find? (·.name = m.name) = some m

/-- `p` is what the parent name of `m` stands for. -/
structure IsParent (l : List IoModule) (p m : IoModule) : Prop where
  named : m.parentModule = some p.name
  name_ne : p.name ≠ ""
  ne_self : p.name ≠ m.name
  known : IsKnown l p

/-- A module that names no parent, itself, or none that is there. -/
def IsRoot (l : List IoModule) (m : IoModule) : Prop :=
  ∀ p, m.parentModule = some p → p = "" ∨ p = m.name ∨ ∀ d ∈ l, d.name ≠ p

/-- A module with all its ancestors, the nearest first and a root last. -/
inductive Lineage (l : List IoModule) : List IoModule → Prop
  | root {m : IoModule} (hm : IsKnown l m) (hroot : IsRoot l m) : Lineage l [m]
  | child {m p : IoModule} {above : List IoModule} (hm : IsKnown l m) (hp : IsParent l p m)
      (h : Lineage l (p :: above)) : Lineage l (m :: p :: above)

namespace ModuleNode

mutual
/-- The ways from the root of a tree to each of its nodes, the root first. -/
def ways : ModuleNode → List (List IoModule)
  | .node m children => [m] :: (waysAll children).map (m :: ·)

def waysAll : List ModuleNode → List (List IoModule)
  | [] => []
  | n :: l => n.ways ++ waysAll l
end

/-- The ways to the nodes that hold a module with a name. -/
def waysTo (l : List ModuleNode) (name : String) : List (List IoModule) :=
  (waysAll l).filter fun w => w.getLast?.any (·.name = name)

theorem waysAll_eq (l : List ModuleNode) : waysAll l = l.flatMap ways := by
  induction l with
  | nil => rfl
  | cons n l ih => rw [waysAll, ih, List.flatMap_cons]

end ModuleNode

variable {l : List IoModule} {m n p q : IoModule}

theorem IsKnown.ext (hm : IsKnown l m) (hn : IsKnown l n) (h : m.name = n.name) : m = n := by
  rw [IsKnown, h] at hm
  exact Option.some.inj (hm.symm.trans hn)

theorem isKnown_of_find? {name : String} (h : l.find? (·.name = name) = some m) : IsKnown l m ∧ m.name = name := by
  have hname : m.name = name := by simpa using List.find?_some h
  exact ⟨by rw [IsKnown, hname, h], hname⟩

theorem IsParent.unique (hp : IsParent l p m) (hq : IsParent l q m) : p = q :=
  hp.known.ext hq.known (Option.some.inj (hp.named.symm.trans hq.named))

theorem IsRoot.not_isParent (h : IsRoot l m) : ¬ IsParent l p m := by
  intro hp
  rcases h p.name hp.named with he | he | he
  · exact hp.name_ne he
  · exact hp.ne_self he
  · exact he p (List.mem_of_find?_eq_some hp.known) rfl

namespace ModuleIndex

theorem get?_ofList (l : List IoModule) (name : String) :
    Keyed.get? (ofList l) name = l.find? (·.name = name) := Keyed.get?_firsts _ l name

theorem parent?_eq_some_iff : (ofList l).parent? m = some p ↔ IsParent l p m := by
  rw [parent?, Option.bind_eq_some_iff]
  constructor
  · rintro ⟨name, hname, hp⟩
    obtain ⟨hnamed, hne⟩ := Option.filter_eq_some_iff.1 hname
    rw [get?_ofList] at hp
    obtain ⟨hknown, rfl⟩ := isKnown_of_find? hp
    rw [Bool.and_eq_true] at hne
    exact ⟨hnamed, by simpa using hne.1, by simpa using hne.2, hknown⟩
  · intro hp
    refine ⟨p.name, Option.filter_eq_some_iff.2 ⟨hp.named, ?_⟩, ?_⟩
    · simp [hp.name_ne, hp.ne_self]
    · rw [get?_ofList]
      exact hp.known

theorem parent?_eq_none_iff : (ofList l).parent? m = none ↔ IsRoot l m := by
  constructor
  · intro h p hp
    by_contra hno
    rw [not_or, not_or] at hno
    obtain ⟨hne, hself, hthere⟩ := hno
    have hfound : (l.find? (·.name = p)).isSome := by
      simpa [List.find?_isSome] using hthere
    obtain ⟨d, hd⟩ := Option.isSome_iff_exists.1 hfound
    obtain ⟨hknown, rfl⟩ := isKnown_of_find? hd
    rw [parent?_eq_some_iff.2 ⟨hp, hne, hself, hknown⟩] at h
    cases h
  · intro h
    cases hp : (ofList l).parent? m with
    | none => rfl
    | some p => exact absurd (parent?_eq_some_iff.1 hp) h.not_isParent

theorem key_eq_name {k : String} (h : (k, m) ∈ ofList l) : k = m.name := by
  have hget := (Keyed.get?_eq_some_iff (Keyed.nodup_keys_firsts _ l) k m).2 h
  rw [← ofList, get?_ofList] at hget
  exact (isKnown_of_find? hget).2.symm

theorem mem_modules : m ∈ (ofList l).map (·.2) ↔ IsKnown l m := by
  rw [IsKnown, ← get?_ofList, ofList, Keyed.get?_eq_some_iff (Keyed.nodup_keys_firsts _ l), List.mem_map]
  constructor
  · rintro ⟨⟨k, d⟩, hd, rfl⟩
    rw [← key_eq_name hd]
    exact hd
  · exact fun h => ⟨_, h, rfl⟩

theorem names_modules (l : List IoModule) : ((ofList l).map (·.2)).map (·.name) = Keyed.keys (ofList l) := by
  rw [List.map_map, Keyed.keys]
  refine List.map_congr_left fun e he => ?_
  exact (key_eq_name he).symm

theorem nodup_names_modules (l : List IoModule) : (((ofList l).map (·.2)).map (·.name)).Nodup := by
  rw [names_modules]
  exact Keyed.nodup_keys_firsts _ l

/-- There are no more modules with different names than the index holds. -/
theorem length_le_of_nodup {w : List IoModule} (hknown : ∀ m ∈ w, IsKnown l m) (hw : (w.map (·.name)).Nodup) :
    w.length ≤ (ofList l).length := by
  have hsub : w ⊆ (ofList l).map (·.2) := fun m hm => mem_modules.2 (hknown m hm)
  have hle := (List.subperm_of_subset (List.Nodup.of_map _ hw) hsub).length_le
  rwa [List.length_map] at hle

theorem mem_children (hm : IsKnown l m) : n ∈ (ofList l).children m.name ↔ IsKnown l n ∧ IsParent l m n := by
  rw [children, List.mem_filter, mem_modules]
  refine and_congr_right fun _ => ?_
  rw [Option.any_eq_true]
  constructor
  · rintro ⟨p, hp, hname⟩
    have hparent := parent?_eq_some_iff.1 hp
    rwa [hparent.known.ext hm (by simpa using hname)] at hparent
  · intro h
    exact ⟨m, parent?_eq_some_iff.2 h, by simp⟩

end ModuleIndex

/-! ### Lines of ancestors -/

namespace Lineage
variable {above : List IoModule}

theorem known (h : Lineage l above) : ∀ m ∈ above, IsKnown l m := by
  induction h with
  | root hm _ =>
    intro d hd
    rwa [List.mem_singleton.1 hd]
  | child hm _ _ ih =>
    intro d hd
    rcases List.mem_cons.1 hd with rfl | hd
    · exact hm
    · exact ih d hd

theorem tail (h : Lineage l (m :: p :: above)) : Lineage l (p :: above) ∧ IsParent l p m := by
  cases h with
  | child _ hp h => exact ⟨h, hp⟩

theorem of_append {below : List IoModule} (h : Lineage l (below ++ m :: above)) : Lineage l (m :: above) := by
  induction below with
  | nil => exact h
  | cons d below ih =>
    cases below with
    | nil => exact h.tail.1
    | cons e below => exact ih h.tail.1

/-- A module has one line of ancestors at most. -/
theorem unique {above' : List IoModule} (h : Lineage l (m :: above)) (h' : Lineage l (m :: above')) :
    above = above' := by
  generalize hw : m :: above = w at h
  induction h generalizing m above above' with
  | root _ hroot =>
    obtain ⟨rfl, rfl⟩ := List.cons.inj hw
    cases h' with
    | root _ _ => rfl
    | child _ hp _ => exact absurd hp hroot.not_isParent
  | child _ hp _ ih =>
    obtain ⟨rfl, rfl⟩ := List.cons.inj hw
    cases h' with
    | root _ hroot => exact absurd hp hroot.not_isParent
    | child _ hq h' =>
      obtain rfl := hp.unique hq
      rw [ih h' rfl]

/-- No module is among its own ancestors: its line of ancestors would have two lengths. -/
theorem name_notMem (h : Lineage l (m :: above)) : m.name ∉ above.map (·.name) := by
  intro hmem
  obtain ⟨d, hd, hname⟩ := List.mem_map.1 hmem
  have hdm : d = m := (h.known d (List.mem_cons_of_mem m hd)).ext (h.known m (by simp)) hname
  obtain ⟨nearer, further, rfl⟩ := List.append_of_mem hd
  have hsplit : Lineage l ((m :: nearer) ++ d :: further) := h
  have hd' : Lineage l (d :: further) := hsplit.of_append
  rw [hdm] at hd'
  have hlength := congrArg List.length (h.unique hd')
  rw [List.length_append, List.length_cons] at hlength
  omega

theorem nodup_names (h : Lineage l above) : (above.map (·.name)).Nodup := by
  induction h with
  | root _ _ => exact List.nodup_singleton _
  | child hm hp h ih => exact List.nodup_cons.2 ⟨(child hm hp h).name_notMem, ih⟩

theorem length_le (h : Lineage l above) : above.length ≤ (ModuleIndex.ofList l).length :=
  ModuleIndex.length_le_of_nodup h.known h.nodup_names

end Lineage

/-! ### Down the tree -/

namespace ModuleNode

theorem mem_ways_node {children : List ModuleNode} {w : List IoModule} :
    w ∈ (node m children).ways ↔ w = [m] ∨ ∃ c ∈ children, ∃ v ∈ c.ways, w = m :: v := by
  rw [ways, List.mem_cons, List.mem_map, waysAll_eq]
  refine or_congr_right ⟨?_, ?_⟩
  · rintro ⟨v, hv, rfl⟩
    obtain ⟨c, hc, hv⟩ := List.mem_flatMap.1 hv
    exact ⟨c, hc, v, hv, rfl⟩
  · rintro ⟨c, hc, v, hv, rfl⟩
    exact ⟨v, List.mem_flatMap.2 ⟨c, hc, hv⟩, rfl⟩

/-- Below a module with a line of ancestors no child is left out. -/
theorem mem_grown {above : List IoModule} (h : Lineage l (m :: above)) :
    n ∈ ((ModuleIndex.ofList l).children m.name).filter (fun c => !(above.map (·.name)).contains c.name) ↔
      Lineage l (n :: m :: above) := by
  rw [List.mem_filter, ModuleIndex.mem_children (h.known m (by simp))]
  constructor
  · rintro ⟨⟨hn, hp⟩, -⟩
    exact .child hn hp h
  · intro hline
    have hfresh : n.name ∉ above.map (·.name) := fun hmem =>
      hline.name_notMem (List.mem_cons_of_mem m.name hmem)
    exact ⟨⟨hline.known n (by simp), hline.tail.2⟩, by simpa using hfresh⟩

/-- The ways below a module lead on to the modules in whose line of ancestors it is, `fuel` levels down. -/
theorem mem_ways_grow {fuel : Nat} {above w : List IoModule} (h : Lineage l (m :: above)) :
    w ∈ (grow (ModuleIndex.ofList l) fuel (above.map (·.name)) m).ways ↔
      ∃ below, below.length ≤ fuel ∧ w = m :: below.reverse ∧ Lineage l (below ++ m :: above) := by
  induction fuel generalizing m above w with
  | zero =>
    rw [grow, mem_ways_node]
    constructor
    · rintro (rfl | ⟨c, hc, -⟩)
      · exact ⟨[], Nat.le_refl _, rfl, h⟩
      · cases hc
    · rintro ⟨below, hlength, rfl, -⟩
      obtain rfl := List.eq_nil_of_length_eq_zero (Nat.le_zero.1 hlength)
      exact .inl rfl
  | succ fuel ih =>
    rw [grow, mem_ways_node]
    constructor
    · rintro (rfl | ⟨c, hc, v, hv, rfl⟩)
      · exact ⟨[], Nat.zero_le _, rfl, h⟩
      · obtain ⟨n, hn, rfl⟩ := List.mem_map.1 hc
        obtain ⟨below, hlength, rfl, hline⟩ := (ih ((mem_grown h).1 hn)).1 hv
        exact ⟨below ++ [n], by simpa using hlength, by simp, by simpa using hline⟩
    · rintro ⟨below, hlength, rfl, hline⟩
      rcases List.eq_nil_or_concat below with rfl | ⟨lower, n, rfl⟩
      · exact .inl rfl
      · -- The way goes through the child `n`, whose own ways are known.
        have hline' : Lineage l (lower ++ n :: m :: above) := by simpa using hline
        have hn : Lineage l (n :: m :: above) := hline'.of_append
        refine .inr ⟨_, List.mem_map.2 ⟨n, (mem_grown h).2 hn, rfl⟩, n :: lower.reverse, ?_, by simp⟩
        exact (ih hn).2 ⟨lower, by simpa using hlength, rfl, hline'⟩

theorem head_of_mem_ways_grow {ms : ModuleIndex} {fuel : Nat} {ancestors : List String} {w : List IoModule}
    (h : w ∈ (grow ms fuel ancestors m).ways) : w.head? = some m := by
  cases fuel with
  | zero =>
    rcases mem_ways_node.1 h with rfl | ⟨_, _, _, _, rfl⟩ <;> rfl
  | succ fuel =>
    rcases mem_ways_node.1 h with rfl | ⟨_, _, _, _, rfl⟩ <;> rfl

/-- Trees with different roots have no way in common. -/
theorem nodup_waysAll_grow {ms : ModuleIndex} {fuel : Nat} {ancestors : List String} {roots : List IoModule}
    (hroots : roots.Nodup) (h : ∀ m ∈ roots, (grow ms fuel ancestors m).ways.Nodup) :
    (waysAll (roots.map (grow ms fuel ancestors))).Nodup := by
  rw [waysAll_eq, List.flatMap_map, List.nodup_flatMap]
  refine ⟨h, hroots.imp fun {m n} hne w hm hn => hne ?_⟩
  exact Option.some.inj ((head_of_mem_ways_grow hm).symm.trans (head_of_mem_ways_grow hn))

theorem nodup_modules (l : List IoModule) : ((ModuleIndex.ofList l).map (·.2)).Nodup :=
  List.Nodup.of_map _ (ModuleIndex.nodup_names_modules l)

theorem nodup_children (l : List IoModule) (name : String) : ((ModuleIndex.ofList l).children name).Nodup :=
  (nodup_modules l).filter _

theorem nodup_ways_grow {fuel : Nat} {above : List IoModule} (h : Lineage l (m :: above)) :
    (grow (ModuleIndex.ofList l) fuel (above.map (·.name)) m).ways.Nodup := by
  induction fuel generalizing m above with
  | zero => exact List.nodup_singleton _
  | succ fuel ih =>
    have hchildren := (nodup_children l m.name).filter fun c => !(above.map (·.name)).contains c.name
    rw [grow, ways, List.nodup_cons]
    refine ⟨fun hmem => ?_, (nodup_waysAll_grow hchildren fun n hn => ?_).map (List.cons_injective)⟩
    · obtain ⟨v, hv, he⟩ := List.mem_map.1 hmem
      obtain rfl := (List.cons.inj he).2
      rw [waysAll_eq] at hv
      obtain ⟨c, hc, hv⟩ := List.mem_flatMap.1 hv
      obtain ⟨n, -, rfl⟩ := List.mem_map.1 hc
      cases head_of_mem_ways_grow hv
    · exact ih ((mem_grown h).1 hn)

end ModuleNode

namespace ModuleIndex
open ModuleNode

theorem mem_roots :
    m ∈ ((ofList l).map (·.2)).filter (fun m => ((ofList l).parent? m).isNone) ↔ Lineage l [m] := by
  rw [List.mem_filter, mem_modules, Option.isNone_iff_eq_none, parent?_eq_none_iff]
  constructor
  · exact fun ⟨hm, hroot⟩ => .root hm hroot
  · intro h
    cases h with
    | root hm hroot => exact ⟨hm, hroot⟩

/-- The tree leads to the modules with a line of ancestors, along that line. -/
theorem mem_ways_tree {w : List IoModule} : w ∈ waysAll (ofList l).tree ↔ Lineage l w.reverse := by
  rw [waysAll_eq, tree, List.flatMap_map, List.mem_flatMap]
  constructor
  · rintro ⟨r, hr, hw⟩
    obtain ⟨below, -, rfl, hline⟩ := (mem_ways_grow (mem_roots.1 hr)).1 hw
    simpa using hline
  · intro h
    rcases List.eq_nil_or_concat w.reverse with hw | ⟨below, r, hw⟩
    · rw [hw] at h
      cases h
    · rw [List.concat_eq_append] at hw
      have hline : Lineage l (below ++ [r]) := hw ▸ h
      have hlength : below.length ≤ (ofList l).length := by
        have := hline.length_le
        rw [List.length_append] at this
        exact Nat.le_of_succ_le this
      refine ⟨r, mem_roots.2 hline.of_append, (mem_ways_grow hline.of_append).2 ⟨below, hlength, ?_, hline⟩⟩
      rw [← List.reverse_reverse w, hw]
      simp

theorem nodup_ways_tree (l : List IoModule) : (waysAll (ofList l).tree).Nodup :=
  nodup_waysAll_grow ((nodup_modules l).filter _) fun _ hm => nodup_ways_grow (mem_roots.1 hm)

theorem exists_of_mem_ways_tree {w : List IoModule} (h : w ∈ waysAll (ofList l).tree) :
    ∃ m above, w = (m :: above).reverse ∧ Lineage l (m :: above) := by
  have hline := mem_ways_tree.1 h
  cases hw : w.reverse with
  | nil =>
    rw [hw] at hline
    cases hline
  | cons m above => exact ⟨m, above, by rw [← hw, List.reverse_reverse], hw ▸ hline⟩

theorem mem_waysTo_tree (hm : IsKnown l m) {w : List IoModule} :
    w ∈ waysTo (ofList l).tree m.name ↔ ∃ above, w = (m :: above).reverse ∧ Lineage l (m :: above) := by
  rw [waysTo, List.mem_filter]
  constructor
  · rintro ⟨hw, hname⟩
    obtain ⟨d, above, rfl, hline⟩ := exists_of_mem_ways_tree hw
    obtain rfl : d = m := (hline.known d (by simp)).ext hm (by simpa using hname)
    exact ⟨above, rfl, hline⟩
  · rintro ⟨above, rfl, hline⟩
    exact ⟨mem_ways_tree.2 (by rwa [List.reverse_reverse]), by simp⟩

theorem waysTo_tree_of_lineage {above : List IoModule} (h : Lineage l (m :: above)) :
    waysTo (ofList l).tree m.name = [(m :: above).reverse] := by
  have hnodup : (waysTo (ofList l).tree m.name).Nodup := (nodup_ways_tree l).filter _
  refine List.perm_singleton.1 ((List.perm_ext_iff_of_nodup hnodup (List.nodup_singleton _)).2 fun w => ?_)
  rw [mem_waysTo_tree (h.known m (by simp)), List.mem_singleton]
  constructor
  · rintro ⟨above', rfl, h'⟩
    rw [h'.unique h]
  · rintro rfl
    exact ⟨above, rfl, h⟩

end ModuleIndex

/-! ### Up the path -/

namespace ModuleIndex
variable {ms : ModuleIndex} {below : List String}

theorem pathAbove_none (ms : ModuleIndex) (fuel : Nat) (below : List String) :
    ms.pathAbove fuel below none = below := by
  cases fuel <;> rfl

theorem pathAbove_seen (fuel : Nat) (h : m.name ∈ below) : ms.pathAbove fuel below (some m) = below := by
  cases fuel with
  | zero => rfl
  | succ fuel => rw [pathAbove, if_pos (by simpa using h)]

theorem pathAbove_new (fuel : Nat) (h : m.name ∉ below) :
    ms.pathAbove (fuel + 1) below (some m) = ms.pathAbove fuel (m.name :: below) (ms.parent? m) := by
  rw [pathAbove, if_neg (by simpa using h)]

theorem pathAbove_lineage {fuel : Nat} {above : List IoModule} (h : Lineage l above) (hfuel : above.length ≤ fuel)
    (hbelow : ∀ m ∈ above, m.name ∉ below) :
    (ofList l).pathAbove fuel below above.head? = (above.map (·.name)).reverse ++ below := by
  induction h generalizing fuel below with
  | @root m _ hroot =>
    obtain ⟨fuel, rfl⟩ := Nat.exists_eq_add_of_le' (show 1 ≤ fuel from hfuel)
    rw [List.head?_cons, pathAbove_new fuel (hbelow m (by simp)), parent?_eq_none_iff.2 hroot, pathAbove_none]
    simp
  | @child m p above hm hp h ih =>
    obtain ⟨fuel, rfl⟩ := Nat.exists_eq_add_of_le' (Nat.le_trans (by simp) hfuel : 1 ≤ fuel)
    have hline : Lineage l (m :: p :: above) := .child hm hp h
    have hfresh : ∀ d ∈ p :: above, d.name ∉ m.name :: below := by
      intro d hd hmem
      rcases List.mem_cons.1 hmem with he | hmem
      · exact hline.name_notMem (he ▸ List.mem_map_of_mem hd)
      · exact hbelow d (List.mem_cons_of_mem m hd) hmem
    rw [List.head?_cons, pathAbove_new fuel (hbelow m (by simp)), parent?_eq_some_iff.2 hp,
      ← List.head?_cons (a := p) (l := above), ih (by simpa using hfuel) hfresh]
    simp

theorem path_eq (hm : IsKnown l m) :
    (ofList l).path m.name = (ofList l).pathAbove ((ofList l).length + 1) [] (some m) := by
  rw [path, get?_ofList, hm]

theorem path_of_lineage {above : List IoModule} (h : Lineage l (m :: above)) :
    (ofList l).path m.name = ((m :: above).map (·.name)).reverse := by
  rw [path_eq (h.known m (by simp)), ← List.head?_cons (a := m) (l := above),
    pathAbove_lineage h (Nat.le_succ_of_le h.length_le) (by simp), List.append_nil]

end ModuleIndex

/-- A walk from some ancestor of a module down to it, on which no name comes twice. -/
structure Climbs (l : List IoModule) (m : IoModule) (w : List IoModule) : Prop where
  last : w.getLast? = some m
  parents : w.IsChain (IsParent l)
  distinct : (w.map (·.name)).Nodup
  known : ∀ d ∈ w, IsKnown l d

namespace Climbs
variable {top : IoModule} {w : List IoModule}

theorem start (hm : IsKnown l m) : Climbs l m [m] where
  last := rfl
  parents := .singleton m
  distinct := List.nodup_singleton _
  known d hd := by rwa [List.mem_singleton.1 hd]

/-- A walk goes on to the parent of its top if that is not on it. -/
theorem cons (h : Climbs l m (top :: w)) (hp : IsParent l p top) (hnew : p.name ∉ (top :: w).map (·.name)) :
    Climbs l m (p :: top :: w) where
  last := by
    rw [List.getLast?_cons_cons]
    exact h.last
  parents := .cons_cons hp h.parents
  distinct := List.nodup_cons.2 ⟨hnew, h.distinct⟩
  known d hd := by
    rcases List.mem_cons.1 hd with rfl | hd
    · exact hp.known
    · exact h.known d hd

end Climbs

/-- A walk that cannot be led further up: it begins with a root, or with a module whose parent is on it. -/
def IsEnded (l : List IoModule) (w : List IoModule) : Prop :=
  ∃ top, w.head? = some top ∧ (IsRoot l top ∨ ∃ p ∈ w, IsParent l p top)

namespace ModuleIndex
open ModuleNode

/-- Each round leads the walk one module further up, and the rounds suffice, since the names differ. -/
theorem pathAbove_climbs {fuel : Nat} {top : IoModule} {w : List IoModule} (h : Climbs l m (top :: w))
    (hfuel : (ofList l).length < fuel + (top :: w).length) :
    ∃ v, (ofList l).pathAbove fuel ((top :: w).map (·.name)) ((ofList l).parent? top) = v.map (·.name) ∧
      Climbs l m v ∧ IsEnded l v := by
  induction fuel generalizing top w with
  | zero =>
    have hlength := length_le_of_nodup h.known h.distinct
    omega
  | succ fuel ih =>
    cases hp : (ofList l).parent? top with
    | none => exact ⟨top :: w, rfl, h, top, rfl, .inl (parent?_eq_none_iff.1 hp)⟩
    | some p =>
      have hparent : IsParent l p top := parent?_eq_some_iff.1 hp
      by_cases hseen : p.name ∈ (top :: w).map (·.name)
      · obtain ⟨d, hd, hname⟩ := List.mem_map.1 hseen
        obtain rfl := (h.known d hd).ext hparent.known hname
        exact ⟨top :: w, pathAbove_seen _ hseen, h, top, rfl, .inr ⟨d, hd, hparent⟩⟩
      · have hrest : (ofList l).length < fuel + (p :: top :: w).length := by
          rw [List.length_cons]
          omega
        rw [pathAbove_new fuel hseen]
        exact ih (h.cons hparent hseen) hrest

theorem path_climbs (hm : IsKnown l m) :
    ∃ w, (ofList l).path m.name = w.map (·.name) ∧ Climbs l m w ∧ IsEnded l w := by
  rw [path_eq hm, pathAbove_new _ List.not_mem_nil]
  exact pathAbove_climbs (.start hm) (by simp)

/-- A module is in the tree if and only if its ancestors lead to a root. It is there once, and the way to it is its
path. The path of any module that is there ends, in the module, each name on it stands for the parent of the next,
and none comes twice. -/
theorem tree_path (l : List IoModule) :
    (∀ m above, Lineage l (m :: above) → waysTo (ofList l).tree m.name = [(m :: above).reverse] ∧
      (ofList l).path m.name = (m :: above).reverse.map (·.name)) ∧
    (∀ m, IsKnown l m → (∀ above, ¬ Lineage l (m :: above)) → waysTo (ofList l).tree m.name = []) ∧
    (∀ w ∈ waysAll (ofList l).tree, ∃ m, w.getLast? = some m ∧ IsKnown l m) ∧
    ∀ m, IsKnown l m → ∃ w, (ofList l).path m.name = w.map (·.name) ∧ Climbs l m w ∧ IsEnded l w := by
  refine ⟨fun m above h => ⟨waysTo_tree_of_lineage h, ?_⟩, fun m hm hno => ?_, fun w hw => ?_,
    fun m => path_climbs⟩
  · rw [path_of_lineage h, List.map_reverse]
  · rw [List.eq_nil_iff_forall_not_mem]
    intro w hw
    obtain ⟨above, -, h⟩ := (mem_waysTo_tree hm).1 hw
    exact hno above h
  · obtain ⟨m, above, rfl, hline⟩ := exists_of_mem_ways_tree hw
    exact ⟨m, by simp, hline.known m (by simp)⟩

/-- Two modules that name each other. -/
example : (ofList [{ name := "A", parentModule := some "B" }, { name := "B", parentModule := some "A" }]).path "A" =
    ["B", "A"] := by decide +kernel

end ModuleIndex

end LadderAtlas
