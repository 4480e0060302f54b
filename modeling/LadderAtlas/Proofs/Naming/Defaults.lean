import LadderAtlas.Naming.Registry
import Mathlib.Data.List.Basic
import Mathlib.Data.List.Induction

/-!
# Which default governs a project

An organisation has one default at most (`Registered.single`), the one added last. But sets without an organisation
serve the projects of every organisation, and of all defaults that serve a project the one whose id was added
first governs it. So the default of an organisation governs its projects if and only if no default without an
organisation is older (`resolve_ownDefault`), where a set that replaces another one is as old as the first set
with its id. It does not always (`resolve_commonDefault`).
-/

namespace LadderAtlas.Naming
open Keyed

/-- What is asked of a registry. Each set that is added is a value of its own. -/
inductive Change where
  | add (s : RuleSet)
  | assign (project : String) (setId : Option String)

/-- The id of the set that a change adds. -/
def Change.addedId? : Change → Option String
  | .add s => some s.id
  | .assign _ _ => none

/-- The ids of the sets that have been added, in order; an id comes again when its set is replaced. -/
def addedIds (changes : List Change) : List String := changes.filterMap (·.addedId?)

/-- A set with the id `a` was added before there was one with the id `b`. -/
def IsOlder (changes : List Change) (a b : String) : Prop :=
  (addedIds changes).idxOf a < (addedIds changes).idxOf b

instance (changes : List Change) (a b : String) : Decidable (IsOlder changes a b) :=
  inferInstanceAs (Decidable ((addedIds changes).idxOf a < (addedIds changes).idxOf b))

/-- What becomes of a set when `s` is added under another id. -/
def beside (s t : RuleSet) : RuleSet := if s.isDefault then Registry.demote s.organization t else t

namespace Registry

/-- The registry after a change; one that is refused leaves it as it is. -/
def change (r : Registry) : Change → Registry
  | .add s => r.add s
  | .assign project setId =>
    match r.assign project setId with
    | .ok r' => r'
    | .error _ => r

/-- What changes make of an empty registry, one after the other. -/
def run (changes : List Change) : Registry := changes.foldl change {}

def ruleSets (r : Registry) : List RuleSet := r.sets.map (·.2)

end Registry

/-! ### One change -/

section beside
variable (s t : RuleSet)

@[simp] theorem id_beside : (beside s t).id = t.id := by
  unfold beside Registry.demote
  repeat' split
  all_goals rfl

@[simp] theorem organization_beside : (beside s t).organization = t.organization := by
  unfold beside Registry.demote
  repeat' split
  all_goals rfl

theorem isDefault_beside : (beside s t).isDefault = true ↔
    t.isDefault = true ∧ (s.isDefault = true → t.organization.same s.organization = false) := by
  unfold beside Registry.demote
  cases hs : s.isDefault with
  | false => simp
  | true => cases ho : t.organization.same s.organization <;> simp

variable {s t}

/-- Beside a new default, the defaults are those of other organisations. -/
theorem same_beside (hs : s.isDefault = true) (ht : (beside s t).isDefault = true) :
    (beside s t).organization.same s.organization = false := by
  rw [organization_beside]
  exact ((isDefault_beside s t).1 ht).2 hs

end beside

namespace Registry

theorem sets_add (r : Registry) (s : RuleSet) :
    (r.add s).sets = put (r.sets.map fun p => (p.1, beside s p.2)) s.id s := by
  unfold add beside
  cases s.isDefault with
  | false => simp
  | true => simp

theorem get?_add (r : Registry) (s : RuleSet) (id : String) :
    get? (r.add s).sets id = if id = s.id then some s else (get? r.sets id).map (beside s) := by
  rw [sets_add, get?_put, get?_mapValues]

theorem keys_add (r : Registry) (s : RuleSet) :
    keys (r.add s).sets = if s.id ∈ keys r.sets then keys r.sets else keys r.sets ++ [s.id] := by
  rw [sets_add, keys_put, keys_mapValues]

/-- An assignment, made or refused, leaves the sets alone. -/
theorem sets_assign (r : Registry) (project : String) (setId : Option String) :
    (r.change (.assign project setId)).sets = r.sets := by
  cases setId with
  | none => rfl
  | some id =>
    rw [change, assign]
    by_cases h : (get? r.sets id).isNone = true
    · rw [if_pos h]
    · rw [if_neg h]

end Registry

section history
variable {changes : List Change} {a b : String}

theorem addedIds_snoc (changes : List Change) (c : Change) :
    addedIds (changes ++ [c]) = addedIds changes ++ c.addedId?.toList := by
  rw [addedIds, addedIds, List.filterMap_append]
  cases h : c.addedId? <;> simp [h]

theorem IsOlder.mem (h : IsOlder changes a b) : a ∈ addedIds changes :=
  List.idxOf_lt_length_iff.1 (Nat.lt_of_lt_of_le h List.idxOf_le_length)

theorem IsOlder.asymm (h : IsOlder changes a b) : ¬ IsOlder changes b a := Nat.lt_asymm h

/-- What is older stays so: further ids come after those there are. -/
theorem IsOlder.snoc (h : IsOlder changes a b) (c : Change) : IsOlder (changes ++ [c]) a b := by
  have ha : a ∈ addedIds changes := h.mem
  rw [IsOlder, addedIds_snoc, List.idxOf_append_of_mem ha]
  by_cases hb : b ∈ addedIds changes
  · rw [List.idxOf_append_of_mem hb]
    exact h
  · rw [List.idxOf_append_of_notMem hb]
    exact Nat.lt_of_lt_of_le (List.idxOf_lt_length_iff.2 ha) (Nat.le_add_right _ _)

theorem isOlder_added (ha : a ∈ addedIds changes) {s : RuleSet} (hs : s.id ∉ addedIds changes) :
    IsOlder (changes ++ [.add s]) a s.id := by
  rw [IsOlder, addedIds_snoc, List.idxOf_append_of_mem ha, List.idxOf_append_of_notMem hs]
  exact Nat.lt_of_lt_of_le (List.idxOf_lt_length_iff.2 ha) (Nat.le_add_right _ _)

end history

/-! ### The invariant -/

/-- The sets stand under their ids, the oldest first, and an organisation has one default at most. Organisations
are told apart as values; one that is not the same as itself, as it is no number, is left aside. -/
structure Registered (changes : List Change) (r : Registry) : Prop where
  ordered : (keys r.sets).Pairwise (IsOlder changes)
  added : ∀ id, id ∈ keys r.sets ↔ id ∈ addedIds changes
  named : ∀ {id s}, get? r.sets id = some s → s.id = id
  single : ∀ {a b s t}, get? r.sets a = some s → get? r.sets b = some t → s.isDefault = true → t.isDefault = true →
    s.organization = t.organization → s.organization.same s.organization = true → a = b

namespace Registered
variable {changes : List Change} {r : Registry}

theorem empty : Registered [] {} where
  ordered := List.Pairwise.nil
  added := fun id => by simp [keys, addedIds]
  named h := by cases h
  single h := by cases h

theorem nodup (h : Registered changes r) : (keys r.sets).Nodup := by
  refine h.ordered.imp fun hab he => ?_
  subst he
  exact hab.asymm hab

theorem mem_ruleSets (h : Registered changes r) {s : RuleSet} : s ∈ r.ruleSets ↔ get? r.sets s.id = some s := by
  rw [Registry.ruleSets, List.mem_map]
  constructor
  · rintro ⟨⟨id, t⟩, hmem, rfl⟩
    have hget := (get?_eq_some_iff h.nodup id t).2 hmem
    rwa [h.named hget]
  · intro hget
    exact ⟨(s.id, s), (get?_eq_some_iff h.nodup _ _).1 hget, rfl⟩

theorem assign (h : Registered changes r) (project : String) (setId : Option String) :
    Registered (changes ++ [.assign project setId]) (r.change (.assign project setId)) := by
  have hids : addedIds (changes ++ [.assign project setId]) = addedIds changes := by
    rw [addedIds_snoc]
    exact List.append_nil _
  refine ⟨?_, ?_, ?_, ?_⟩ <;> rw [Registry.sets_assign]
  · exact h.ordered.imp fun hab => hab.snoc _
  · rw [hids]
    exact h.added
  · exact h.named
  · exact h.single

theorem add (h : Registered changes r) (s : RuleSet) : Registered (changes ++ [.add s]) (r.add s) := by
  have hids : addedIds (changes ++ [.add s]) = addedIds changes ++ [s.id] := addedIds_snoc changes (.add s)
  refine ⟨?_, fun id => ?_, fun {id t} ht => ?_, fun {a b t u} ht hu hdt hdu horg hself => ?_⟩
  · rw [Registry.keys_add]
    have hold : (keys r.sets).Pairwise (IsOlder (changes ++ [.add s])) := h.ordered.imp fun hab => hab.snoc _
    split
    · exact hold
    · rename_i hnew
      refine List.pairwise_append.2 ⟨hold, List.pairwise_singleton _ _, fun a ha b hb => ?_⟩
      obtain rfl := List.mem_singleton.1 hb
      exact isOlder_added ((h.added a).1 ha) fun hs => hnew ((h.added _).2 hs)
  · rw [Registry.keys_add, hids, List.mem_append, ← h.added]
    split
    · rename_i hmem
      refine ⟨.inl, fun hid => ?_⟩
      rcases hid with hid | hid
      · exact hid
      · rwa [List.mem_singleton.1 hid]
    · rw [List.mem_append]
  · rw [Registry.get?_add] at ht
    split at ht
    · rename_i he
      rw [he, ← Option.some.inj ht]
    · obtain ⟨t', ht', rfl⟩ := Option.map_eq_some_iff.1 ht
      rw [id_beside, h.named ht']
  · rw [Registry.get?_add] at ht hu
    split at ht <;> split at hu
    · rename_i ha hb
      rw [ha, hb]
    · -- One of the two is new, and would have demoted the other.
      obtain rfl := Option.some.inj ht
      obtain ⟨u', hu', rfl⟩ := Option.map_eq_some_iff.1 hu
      have hother := same_beside hdt hdu
      rw [← horg, hself] at hother
      cases hother
    · obtain rfl := Option.some.inj hu
      obtain ⟨t', ht', rfl⟩ := Option.map_eq_some_iff.1 ht
      have hother := same_beside hdu hdt
      rw [← horg, hself] at hother
      cases hother
    · obtain ⟨t', ht', rfl⟩ := Option.map_eq_some_iff.1 ht
      obtain ⟨u', hu', rfl⟩ := Option.map_eq_some_iff.1 hu
      rw [organization_beside] at hself
      rw [organization_beside, organization_beside] at horg
      exact h.single ht' hu' ((isDefault_beside s t').1 hdt).1 ((isDefault_beside s u').1 hdu).1 horg hself

theorem change (h : Registered changes r) (c : Change) : Registered (changes ++ [c]) (r.change c) := by
  cases c with
  | add s => exact h.add s
  | assign project setId => exact h.assign project setId

end Registered

theorem run_registered (changes : List Change) : Registered changes (Registry.run changes) := by
  induction changes using List.reverseRecOn with
  | nil => exact .empty
  | append_singleton changes c ih =>
    rw [Registry.run, List.foldl_append]
    exact ih.change c

/-! ### The default that is found -/

/-- In a list in order the first item with a property is the one that none with the property comes before. -/
theorem find?_eq_some_iff_of_pairwise {α : Type} {R : α → α → Prop} (hasymm : ∀ a b, R a b → ¬ R b a)
    {p : α → Bool} {l : List α} (hl : l.Pairwise R) {s : α} (hs : s ∈ l) (hp : p s = true) :
    l.find? p = some s ↔ ∀ t ∈ l, p t = true → ¬ R t s := by
  induction l with
  | nil => cases hs
  | cons a l ih =>
    obtain ⟨ha, hl⟩ := List.pairwise_cons.1 hl
    by_cases hpa : p a = true
    · rw [List.find?_cons_of_pos hpa]
      constructor
      · rintro he t ht -
        obtain rfl := Option.some.inj he
        rcases List.mem_cons.1 ht with rfl | ht
        · exact fun haa => hasymm t t haa haa
        · exact hasymm a t (ha t ht)
      · intro h
        rcases List.mem_cons.1 hs with rfl | hs
        · rfl
        · exact absurd (ha s hs) (h a (by simp) hpa)
    · have hs' : s ∈ l := (List.mem_cons.1 hs).resolve_left fun he => hpa (he ▸ hp)
      rw [List.find?_cons_of_neg hpa, ih hl hs', List.forall_mem_cons]
      exact ⟨fun h => ⟨fun ha => absurd ha hpa, h⟩, fun h => h.2⟩

/-- Whether a set is a default for the projects of an organisation. -/
def isDefaultFor (o : String) (s : RuleSet) : Bool := s.serves (some o) && s.isDefault

theorem isDefaultFor_iff {o : String} {s : RuleSet} : isDefaultFor o s = true ↔
    (s.organization = .null ∨ s.organization = .text o) ∧ s.isDefault = true := by
  rw [isDefaultFor, Bool.and_eq_true, RuleSet.serves, Bool.or_eq_true, Value.isNull_iff, Value.same_text_iff]

/-- A project without an assignment is governed by the first default there is for its organisation. -/
theorem resolve_unassigned {r : Registry} {project : Option String}
    (h : ∀ p, project = some p → get? r.assignments p = none) (o : String) :
    r.resolve project (some o) = pure (r.ruleSets.find? (isDefaultFor o)) := by
  have hfree : (project.filter (· ≠ "")).bind (get? r.assignments) = none := by
    rw [Option.bind_eq_none_iff]
    intro p hp
    exact h p (Option.filter_eq_some_iff.1 hp).1
  have hfirst : r.ruleSets.find? (isDefaultFor o) = (r.ruleSets.filter (·.serves (some o))).find? (·.isDefault) := by
    rw [List.find?_filter]
    congr
    funext s
    simp [isDefaultFor]
  rw [Registry.resolve, hfree, hfirst]
  rfl

namespace Registered
variable {changes : List Change} {r : Registry}

theorem ids_ruleSets (h : Registered changes r) : r.ruleSets.map (·.id) = keys r.sets := by
  rw [Registry.ruleSets, List.map_map, keys]
  refine List.map_congr_left fun e he => ?_
  exact h.named ((get?_eq_some_iff h.nodup e.1 e.2).2 he)

theorem ordered_ruleSets (h : Registered changes r) : r.ruleSets.Pairwise fun s t => IsOlder changes s.id t.id := by
  have hids : (r.ruleSets.map (·.id)).Pairwise (IsOlder changes) := by
    rw [h.ids_ruleSets]
    exact h.ordered
  exact List.pairwise_map.1 hids

/-- An organisation has one default, and so have all sets without one. -/
theorem eq_of_isDefault (h : Registered changes r) {s t : RuleSet} {o : Option String} (hs : s ∈ r.ruleSets)
    (ht : t ∈ r.ruleSets) (hso : s.organization = .opt .text o) (hto : t.organization = .opt .text o)
    (hsd : s.isDefault = true) (htd : t.isDefault = true) : s = t := by
  have hs' := h.mem_ruleSets.1 hs
  have ht' := h.mem_ruleSets.1 ht
  have hid : s.id = t.id :=
    h.single hs' ht' hsd htd (hso.trans hto.symm) (by rw [hso]; exact Value.opt_text_same_iff.2 rfl)
  rw [hid] at hs'
  exact Option.some.inj (hs'.symm.trans ht')

end Registered

/-- A project without an assignment is governed by the default of its organisation, unless a default without an
organisation is older. -/
theorem resolve_ownDefault {changes : List Change} {s : RuleSet} {o : String} {project : Option String}
    (hs : s ∈ (Registry.run changes).ruleSets) (horg : s.organization = .text o) (hdef : s.isDefault = true)
    (hfree : ∀ p, project = some p → get? (Registry.run changes).assignments p = none) :
    (∃ g ∈ (Registry.run changes).ruleSets, (Registry.run changes).resolve project (some o) = pure (some g) ∧
      g.isDefault = true ∧ (g = s ∨ g.organization = .null)) ∧
    ((Registry.run changes).resolve project (some o) = pure (some s) ↔
      ∀ t ∈ (Registry.run changes).ruleSets, t.isDefault = true → t.organization = .null →
        ¬ IsOlder changes t.id s.id) := by
  have hreg := run_registered changes
  generalize Registry.run changes = r at *
  have hcandidate : isDefaultFor o s = true := isDefaultFor_iff.2 ⟨.inr horg, hdef⟩
  have hown : ∀ t ∈ r.ruleSets, isDefaultFor o t = true →
      t.isDefault = true ∧ (t = s ∨ t.organization = .null) := by
    intro t ht htd
    obtain ⟨hnull | hto, hdefault⟩ := isDefaultFor_iff.1 htd
    · exact ⟨hdefault, .inr hnull⟩
    · exact ⟨hdefault, .inl (hreg.eq_of_isDefault (o := some o) ht hs hto horg hdefault hdef)⟩
  rw [resolve_unassigned hfree]
  constructor
  · obtain ⟨g, hg⟩ : ∃ g, r.ruleSets.find? (isDefaultFor o) = some g :=
      Option.isSome_iff_exists.1 (List.find?_isSome.2 ⟨s, hs, hcandidate⟩)
    have hmem := List.mem_of_find?_eq_some hg
    exact ⟨g, hmem, by rw [hg], hown g hmem (List.find?_some hg)⟩
  · have hiff : (pure (r.ruleSets.find? (isDefaultFor o)) : Noted (Option RuleSet)) = pure (some s) ↔
        r.ruleSets.find? (isDefaultFor o) = some s := ⟨fun h => congrArg Noted.value h, fun h => by rw [h]⟩
    rw [hiff, find?_eq_some_iff_of_pairwise (fun a b hab => hab.asymm) hreg.ordered_ruleSets hs hcandidate]
    constructor
    · intro h t ht htd hnull
      exact h t ht (isDefaultFor_iff.2 ⟨.inl hnull, htd⟩)
    · intro h t ht htd
      obtain ⟨hdefault, rfl | hnull⟩ := hown t ht htd
      · exact fun hself => hself.asymm hself
      · exact h t ht hdefault hnull

/-- The rule sets of the organisation `acme` and of none, both defaults. -/
def acmeSet : RuleSet := { id := "acme", name := .text "Acme", organization := .text "acme", isDefault := true }

def commonSet : RuleSet := { id := "common", name := .text "Common", isDefault := true }

/-- The default of `acme` is replaced and the project has been assigned for a while. -/
def acmeFirst : List Change :=
  [.add { acmeSet with isDefault := false }, .add commonSet, .assign "p" (some "common"), .add acmeSet,
    .assign "q" (some "none"), .assign "p" none]

theorem resolve_ownDefault_acme :
    acmeSet ∈ (Registry.run acmeFirst).ruleSets ∧
    (Registry.run acmeFirst).resolve (some "p") (some "acme") = pure (some acmeSet) := by
  have hs : acmeSet ∈ (Registry.run acmeFirst).ruleSets := List.mem_cons_self
  have hfree : ∀ p, some "p" = some p → get? (Registry.run acmeFirst).assignments p = none := by
    rintro p hp
    obtain rfl := Option.some.inj hp
    rfl
  refine ⟨hs, (resolve_ownDefault hs rfl rfl hfree).2.2 fun t ht _ hnull => ?_⟩
  have hsets : (Registry.run acmeFirst).ruleSets = [acmeSet, commonSet] := rfl
  rw [hsets, List.mem_cons, List.mem_singleton] at ht
  rcases ht with rfl | rfl <;> decide

/-- An older default without an organisation governs the projects of an organisation that has its own. -/
theorem resolve_commonDefault :
    acmeSet ∈ (Registry.run [.add commonSet, .add acmeSet]).ruleSets ∧
    (Registry.run [.add commonSet, .add acmeSet]).assignments = [] ∧
    (Registry.run [.add commonSet, .add acmeSet]).resolve none (some "acme") = pure (some commonSet) ∧
    (pure (some commonSet) : Noted (Option RuleSet)) ≠ pure (some acmeSet) := by
  refine ⟨.tail _ (.head _), rfl, rfl, fun h => ?_⟩
  have hid : commonSet.id = acmeSet.id := congrArg RuleSet.id (Option.some.inj (congrArg Noted.value h))
  exact absurd hid (by decide)

end LadderAtlas.Naming
