import LadderAtlas.Proofs.InPlace
import LadderAtlas.Proofs.Naming.Defaults

/-!
# Registries that change

`Registry.perform` changes a registry in place, as `Registry.change` says: only an assignment of a set that is not
registered fails, and it does so before anything is written (`perform_error_iff`). Through all changes an
organisation has one default at most, an assignment names a set that is registered, and a default that was added
stays the one of its organisation until another one takes over (`registry_sound`).

A set that is assigned to a project governs it wherever it may serve, but a project has to have a name: the empty
one counts as none, although a set can be assigned to it (`resolve_unnamedProject`).
-/

namespace LadderAtlas.Naming
open Keyed

namespace Registry

/-! ### Changes in place -/

/-- A set that is added first demotes the default of its organisation. -/
def perform : Change → InPlace Registry Unit
  | .add s => do
    if s.isDefault then
      modify fun r => { r with sets := r.sets.map fun (id, t) => (id, demote s.organization t) }
    modify fun r => { r with sets := put r.sets s.id s }
  | .assign project none => modify fun r => { r with assignments := erase r.assignments project }
  | .assign project (some id) => do
    if (get? (← get).sets id).isNone then throw (.rule (.unknownSet id))
    modify fun r => { r with assignments := put r.assignments project id }

/-- The set of an assignment that is refused. -/
def unknown? (r : Registry) : Change → Option String
  | .assign _ (some id) => if id ∈ keys r.sets then none else some id
  | _ => none

theorem isNone_get?_iff {r : Registry} {id : String} : (get? r.sets id).isNone = true ↔ id ∉ keys r.sets := by
  rw [mem_keys_iff, Option.not_isSome_iff_eq_none, Option.isNone_iff_eq_none]

theorem outcome_perform (r : Registry) (c : Change) : (perform c).outcome r =
    match r.unknown? c with
    | none => (.ok (), r.change c)
    | some id => (.error (.rule (.unknownSet id)), r) := by
  cases c with
  | add s =>
    cases h : s.isDefault with
    | true =>
      simp only [perform, unknown?, change, add, h, if_true]
      rfl
    | false =>
      simp only [perform, unknown?, change, add, h]
      rfl
  | assign project setId =>
    cases setId with
    | none => rfl
    | some id =>
      rw [perform, unknown?, InPlace.outcome_get_bind, change, assign]
      by_cases h : id ∈ keys r.sets
      · rw [if_neg (fun hn => isNone_get?_iff.1 hn h), if_pos h, if_neg (fun hn => isNone_get?_iff.1 hn h)]
        rfl
      · rw [if_pos (isNone_get?_iff.2 h), if_neg h]
        rfl

theorem change_of_unknown {r : Registry} {c : Change} {id : String} (h : r.unknown? c = some id) : r.change c = r := by
  cases c with
  | add s => cases h
  | assign project setId =>
    cases setId with
    | none => cases h
    | some id' =>
      rw [unknown?] at h
      by_cases hid : id' ∈ keys r.sets
      · rw [if_pos hid] at h
        cases h
      · rw [change, assign, if_pos (isNone_get?_iff.2 hid)]

theorem run_snoc (before : List Change) (c : Change) : run (before ++ [c]) = (run before).change c := by
  rw [run, run, List.foldl_append]
  rfl

/-! ### Assignments -/

/-- Every assignment names a set that is registered. -/
def Assigned (r : Registry) : Prop := ∀ project id, get? r.assignments project = some id → id ∈ keys r.sets

theorem Assigned.change {r : Registry} (h : r.Assigned) (c : Change) : (r.change c).Assigned := by
  intro project id hid
  cases c with
  | add s =>
    have hold : id ∈ keys r.sets := h project id hid
    change id ∈ keys (r.add s).sets
    rw [keys_add]
    split
    · exact hold
    · exact List.mem_append_left _ hold
  | assign q setId =>
    rw [sets_assign]
    cases setId with
    | none =>
      change get? (erase r.assignments q) project = some id at hid
      rw [get?_erase] at hid
      split at hid
      · cases hid
      · exact h project id hid
    | some id' =>
      rw [Registry.change, assign] at hid
      by_cases hunknown : (get? r.sets id').isNone = true
      · rw [if_pos hunknown] at hid
        exact h project id hid
      · rw [if_neg hunknown] at hid
        change get? (put r.assignments q id') project = some id at hid
        rw [get?_put] at hid
        split at hid
        · obtain rfl := Option.some.inj hid
          exact not_not.1 (mt isNone_get?_iff.2 hunknown)
        · exact h project id hid

theorem run_assigned (changes : List Change) : (run changes).Assigned := by
  induction changes using List.reverseRecOn with
  | nil => exact fun _ _ h => nomatch h
  | append_singleton before c ih =>
    rw [run_snoc]
    exact ih.change c

end Registry

/-! ### The default in force -/

/-- A set with the id of `s` is added, or another default of the organisation of `s`. -/
def Change.Relieves (s : RuleSet) : Change → Prop
  | .add t => t.id = s.id ∨ t.isDefault = true ∧ t.organization = s.organization
  | .assign _ _ => False

/-- Beside a set that does not take over, a set stays what it is. -/
theorem beside_of_not_relieves {s t : RuleSet} {o : Option String} (ho : s.organization = .opt .text o)
    (h : ¬ (Change.add t).Relieves s) : beside t s = s := by
  unfold beside Registry.demote
  split
  · rename_i ht
    rw [if_neg]
    intro hsame
    rw [ho, Value.opt_text_same_iff] at hsame
    exact h (.inr ⟨ht, hsame.trans ho.symm⟩)
  · rfl

namespace Registered
variable {changes before after : List Change} {r : Registry} {s : RuleSet}

theorem mem_change (h : Registered changes r) {o : Option String} (ho : s.organization = .opt .text o)
    (hs : s ∈ r.ruleSets) {c : Change} (hc : ¬ c.Relieves s) : s ∈ (r.change c).ruleSets := by
  rw [(h.change c).mem_ruleSets]
  rw [h.mem_ruleSets] at hs
  cases c with
  | add t =>
    have hid : s.id ≠ t.id := fun he => hc (.inl he.symm)
    rw [Registry.change, Registry.get?_add, if_neg hid, hs, Option.map_some, beside_of_not_relieves ho hc]
  | assign project setId => rwa [Registry.sets_assign]

theorem mem_run_append (hs : s ∈ (Registry.run before).ruleSets) {o : Option String}
    (ho : s.organization = .opt .text o) (hafter : ∀ c ∈ after, ¬ c.Relieves s) :
    s ∈ (Registry.run (before ++ after)).ruleSets := by
  induction after using List.reverseRecOn with
  | nil => rwa [List.append_nil]
  | append_singleton after c ih =>
    rw [← List.append_assoc, Registry.run_snoc]
    exact (run_registered _).mem_change ho (ih fun c' hc' => hafter c' (by simp [hc'])) (hafter c (by simp))

/-- A set is found by its id among those that serve an organisation. -/
theorem find?_serves (h : Registered changes r) (hs : s ∈ r.ruleSets) {o : Option String} (hserves : s.serves o = true) :
    (r.ruleSets.filter (·.serves o)).find? (·.id = s.id) = some s := by
  have hmem : s ∈ r.ruleSets.filter (·.serves o) := List.mem_filter.2 ⟨hs, hserves⟩
  obtain ⟨t, ht⟩ : ∃ t, (r.ruleSets.filter (·.serves o)).find? (·.id = s.id) = some t :=
    Option.isSome_iff_exists.1 (List.find?_isSome.2 ⟨s, hmem, by simp⟩)
  have htid : t.id = s.id := by simpa using List.find?_some ht
  have htmem := h.mem_ruleSets.1 (List.mem_filter.1 (List.mem_of_find?_eq_some ht)).1
  rw [htid, h.mem_ruleSets.1 hs] at htmem
  rw [ht, htmem]

end Registered

theorem RuleSet.serves_iff {s : RuleSet} {organization : Option String} : s.serves organization = true ↔
    ∀ o, organization = some o → s.organization = .null ∨ s.organization = .text o := by
  cases organization with
  | none => simp [serves]
  | some o => simp [serves]

theorem Registry.resolve_assigned {r : Registry} {changes : List Change} (h : Registered changes r) {project : String}
    (hproject : project ≠ "") {s : RuleSet} (hs : s ∈ r.ruleSets) (hid : get? r.assignments project = some s.id)
    {organization : Option String} (hserves : s.serves organization = true) :
    r.resolve (some project) organization = pure (some s) := by
  have hassigned : ((some project).filter (· ≠ "")).bind (get? r.assignments) = some s.id := by
    rw [Option.filter_some, if_pos (by simpa using hproject), Option.bind_some, hid]
  have hfind := h.find?_serves hs hserves
  rw [ruleSets] at hfind
  rw [resolve, hassigned, resolveAmong]
  simp only [hfind]

/-- Whatever changes are made, refused ones among them: an organisation has one default at most, and so have the sets
without one; an assignment names a set that is registered; a default that is added stays the one of its organisation
until it is relieved; a change that is refused leaves everything as it was; and a project with a name is governed by
the set that is assigned to it wherever that set may serve. -/
theorem registry_sound (changes : List Change) :
    (∀ s ∈ (Registry.run changes).ruleSets, ∀ t ∈ (Registry.run changes).ruleSets, ∀ o : Option String,
      s.organization = .opt .text o → t.organization = .opt .text o → s.isDefault = true → t.isDefault = true →
        s = t) ∧
    (∀ project id, get? (Registry.run changes).assignments project = some id →
      ∃ s ∈ (Registry.run changes).ruleSets, s.id = id) ∧
    (∀ before s after, changes = before ++ .add s :: after → s.isDefault = true →
      ∀ o : Option String, s.organization = .opt .text o → (∀ c ∈ after, ¬ c.Relieves s) →
        s ∈ (Registry.run changes).ruleSets ∧
        ∀ t ∈ (Registry.run changes).ruleSets, t.isDefault = true → t.organization = s.organization → t = s) ∧
    (∀ c, ((Registry.perform c).outcome (Registry.run changes)).2 = Registry.run (changes ++ [c]) ∧
      ∀ f, ((Registry.perform c).outcome (Registry.run changes)).1 = .error f →
        Registry.run (changes ++ [c]) = Registry.run changes) ∧
    ∀ project s, project ≠ "" → s ∈ (Registry.run changes).ruleSets →
      get? (Registry.run changes).assignments project = some s.id → ∀ organization : Option String,
        (∀ o, organization = some o → s.organization = .null ∨ s.organization = .text o) →
        (Registry.run changes).resolve (some project) organization = pure (some s) := by
  have hreg := run_registered changes
  refine ⟨fun s hs t ht o hso hto hsd htd => hreg.eq_of_isDefault hs ht hso hto hsd htd, fun project id hid => ?_,
    fun before s after hchanges hsd o ho hafter => ?_, fun c => ?_,
    fun project s hproject hs hid organization hserves =>
      Registry.resolve_assigned hreg hproject hs hid (RuleSet.serves_iff.2 hserves)⟩
  · obtain ⟨s, hs⟩ := Option.isSome_iff_exists.1 ((mem_keys_iff _ _).1 (Registry.run_assigned changes project id hid))
    obtain rfl := hreg.named hs
    exact ⟨s, hreg.mem_ruleSets.2 hs, rfl⟩
  · have hadded : s ∈ (Registry.run (before ++ [.add s])).ruleSets := by
      rw [(run_registered _).mem_ruleSets, Registry.run_snoc, Registry.change, Registry.get?_add, if_pos rfl]
    have hs : s ∈ (Registry.run changes).ruleSets := by
      rw [hchanges, List.append_cons]
      exact Registered.mem_run_append hadded ho hafter
    exact ⟨hs, fun t ht htd hto => hreg.eq_of_isDefault ht hs (hto.trans ho) ho htd hsd⟩
  · rw [Registry.run_snoc, Registry.outcome_perform]
    cases h : (Registry.run changes).unknown? c with
    | none => exact ⟨rfl, fun f hf => by cases hf⟩
    | some id => exact ⟨(Registry.change_of_unknown h).symm, fun _ _ => Registry.change_of_unknown h⟩

theorem registry_sound_acme :
    acmeSet ∈ (Registry.run acmeFirst).ruleSets ∧
    ∀ t ∈ (Registry.run acmeFirst).ruleSets, t.isDefault = true → t.organization = acmeSet.organization →
      t = acmeSet := by
  have hafter : ∀ c ∈ [Change.assign "q" (some "none"), .assign "p" none], ¬ c.Relieves acmeSet := by
    intro c hc
    simp only [List.mem_cons, List.not_mem_nil, or_false] at hc
    rcases hc with rfl | rfl <;> exact fun h => h
  exact (registry_sound acmeFirst).2.2.1 [.add { acmeSet with isDefault := false }, .add commonSet,
    .assign "p" (some "common")] acmeSet _ rfl rfl (some "acme") rfl hafter

def plainSet : RuleSet := { id := "plain", name := .text "Plain" }

/-- The project without a name has an assignment and no set. -/
theorem resolve_unnamedProject :
    get? (Registry.run [.add plainSet, .assign "" (some "plain")]).assignments "" = some plainSet.id ∧
    plainSet ∈ (Registry.run [.add plainSet, .assign "" (some "plain")]).ruleSets ∧
    (Registry.run [.add plainSet, .assign "" (some "plain")]).resolve (some "") none = pure none ∧
    (pure none : Noted (Option RuleSet)) ≠ pure (some plainSet) :=
  ⟨rfl, .head _, rfl, fun h => nomatch congrArg Noted.value h⟩

end LadderAtlas.Naming
