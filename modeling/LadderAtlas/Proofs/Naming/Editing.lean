import LadderAtlas.Naming.RuleSet
import LadderAtlas.Proofs.InPlace
import LadderAtlas.Proofs.Naming.SoundRules
import LadderAtlas.Text.CharacterName.Table
import Mathlib.Data.List.Induction
import Mathlib.Data.List.Nodup

/-!
# Rule sets that are edited

`RuleSet.perform` edits a set in place, one change of the set at a time. It does what the functions on sets say or
fails and has changed nothing (`outcome_perform`), as each check comes before the change. `edit_cases` lists all that
an edit can do; the other proofs work from it.

A set is read and edited with sound rules only, so it keeps to them (`edits_sound`). The ids of its rules stay
distinct if and only if no replacement gives a rule the id of another one (`nodup_ids_iff`): adding a rule asks for
a new id, but replacing one does not (`replace_repeats_id`).
-/

namespace LadderAtlas.Naming

inductive Edit where
  | add (r : Rule)
  | replace (id : String) (changes : List (Scalar × Value))
  | remove (id : String)

namespace RuleSet

def ids (s : RuleSet) : List String := s.rules.map (·.id)

/-! ### The rule with an id -/

section
variable {id : String} {rules before after : List Rule} {r : Rule}

theorem first_cases (id : String) (rules : List Rule) : (∀ t ∈ rules, t.id ≠ id) ∨
    ∃ before r after, rules = before ++ r :: after ∧ (∀ t ∈ before, t.id ≠ id) ∧ r.id = id := by
  cases h : rules.find? (·.id = id) with
  | none => exact .inl (by simpa using h)
  | some r =>
    obtain ⟨hr, before, after, rfl, hbefore⟩ := List.find?_eq_some_iff_append.1 h
    exact .inr ⟨before, r, after, rfl, by simpa using hbefore, by simpa using hr⟩

theorem replaceIn_of_forall (change : Rule → Except Failure Rule) (h : ∀ t ∈ rules, t.id ≠ id) :
    replaceIn id change rules = none := by
  induction rules with
  | nil => rfl
  | cons t rules ih =>
    obtain ⟨ht, hrules⟩ := List.forall_mem_cons.1 h
    rw [replaceIn, if_neg ht, ih hrules, Option.map_none]

theorem replaceIn_append (change : Rule → Except Failure Rule) (h : ∀ t ∈ before, t.id ≠ id) (hr : r.id = id) :
    replaceIn id change (before ++ r :: after) = some ((change r).map fun r' => before ++ r' :: after) := by
  induction before with
  | nil =>
    rw [List.nil_append, replaceIn, if_pos hr]
    rfl
  | cons t before ih =>
    obtain ⟨ht, hbefore⟩ := List.forall_mem_cons.1 h
    rw [List.cons_append, replaceIn, if_neg ht, ih hbefore, Option.map_some]
    cases change r <;> rfl

end

section edits
variable [Text.CharacterNames]

/-- What an edit makes of a set. -/
def edit (s : RuleSet) : Edit → Except Failure RuleSet
  | .add r => s.add r
  | .replace id changes => s.replace id changes
  | .remove id => .ok (s.remove id)

/-! ### Editing in place -/

/-- Goes through rules that begin at a place of the set, and puts the changed rule in the place of the first one with
an id. -/
def replaceFrom (id : String) (changes : List (Scalar × Value)) : (place : Nat) → List Rule → InPlace RuleSet Rule
  | _, [] => do throw (.rule (.unknownRule id (← get).id))
  | place, r :: rules =>
    if r.id = id then do
      let changed ← InPlace.found (r.update changes)
      modify fun s => { s with rules := s.rules.set place changed }
      return changed
    else replaceFrom id changes (place + 1) rules

def perform : Edit → InPlace RuleSet Unit
  | .add r => do
    if (← get).rules.any (·.id = r.id) then throw (.rule (.duplicateRule r.id (← get).id))
    modify fun s => { s with rules := s.rules ++ [r] }
  | .replace id changes => do
    let _ ← replaceFrom id changes 0 (← get).rules
  | .remove id => modify fun s => { s with rules := s.rules.filter (·.id ≠ id) }

/-- What has become of a set after edits, those that failed among them. -/
def run (s : RuleSet) (edits : List Edit) : RuleSet := edits.foldl (fun s e => ((perform e).outcome s).2) s

section
variable {id : String} {rules before : List Rule} {r : Rule} {changes : List (Scalar × Value)}

theorem outcome_replaceFrom_of_forall (s : RuleSet) (place : Nat) (h : ∀ t ∈ rules, t.id ≠ id) :
    (replaceFrom id changes place rules).outcome s = (.error (.rule (.unknownRule id s.id)), s) := by
  induction rules generalizing place with
  | nil => rw [replaceFrom, InPlace.outcome_get_bind, InPlace.outcome_throw]
  | cons t rules ih =>
    obtain ⟨ht, hrules⟩ := List.forall_mem_cons.1 h
    rw [replaceFrom, if_neg ht, ih _ hrules]

theorem outcome_replaceFrom_append (s : RuleSet) (place : Nat) (changes : List (Scalar × Value)) (after : List Rule)
    (h : ∀ t ∈ before, t.id ≠ id) (hr : r.id = id) :
    (replaceFrom id changes place (before ++ r :: after)).outcome s =
      match r.update changes with
      | .ok r' => (.ok r', { s with rules := s.rules.set (place + before.length) r' })
      | .error f => (.error f, s) := by
  induction before generalizing place with
  | nil =>
    rw [List.nil_append, replaceFrom, if_pos hr]
    cases hupdate : r.update changes with
    | ok r' =>
      rw [InPlace.outcome_bind_of_ok (InPlace.outcome_found _ s)]
      rfl
    | error f => exact InPlace.outcome_bind_of_error (InPlace.outcome_found _ s) _
  | cons t before ih =>
    obtain ⟨ht, hbefore⟩ := List.forall_mem_cons.1 h
    have hplace : place + 1 + before.length = place + (t :: before).length := by
      rw [List.length_cons]
      omega
    rw [List.cons_append, replaceFrom, if_neg ht, ih _ hbefore, hplace]

end

/-- An edit in place does what it should, or fails and leaves the set as it was. -/
theorem outcome_perform (s : RuleSet) (e : Edit) : (perform e).outcome s =
    match s.edit e with
    | .ok s' => (.ok (), s')
    | .error f => (.error f, s) := by
  cases e with
  | add r =>
    rw [perform, edit, add, InPlace.outcome_get_bind]
    by_cases h : (s.rules.any (·.id = r.id)) = true
    · rw [if_pos h, if_pos h]
      rfl
    · rw [if_neg h, if_neg h]
      rfl
  | replace id changes =>
    rw [perform, edit, replace, InPlace.outcome_get_bind]
    rcases first_cases id s.rules with h | ⟨before, r, after, hrules, hbefore, hr⟩
    · rw [replaceIn_of_forall _ h, InPlace.outcome_bind_of_error (outcome_replaceFrom_of_forall s 0 h)]
    · have houtcome := outcome_replaceFrom_append s 0 changes after hbefore hr
      rw [hrules, replaceIn_append _ hbefore hr]
      cases hupdate : r.update changes with
      | ok r' =>
        rw [hupdate] at houtcome
        rw [InPlace.outcome_bind_of_ok houtcome, hrules]
        simp [Except.map]
      | error f =>
        rw [hupdate] at houtcome
        rw [InPlace.outcome_bind_of_error houtcome]
        rfl
  | remove id => rfl

/-- All that an edit can do to a set. -/
theorem edit_cases {s s' : RuleSet} {e : Edit} (h : s.edit e = .ok s') :
    (∃ r, e = .add r ∧ r.id ∉ s.ids ∧ s' = { s with rules := s.rules ++ [r] }) ∨
    (∃ id changes before r r' after, e = .replace id changes ∧ s.rules = before ++ r :: after ∧
      (∀ t ∈ before, t.id ≠ id) ∧ r.id = id ∧ r.update changes = .ok r' ∧
      s' = { s with rules := before ++ r' :: after }) ∨
    (∃ id, e = .remove id ∧ s' = { s with rules := s.rules.filter (·.id ≠ id) }) := by
  cases e with
  | add r =>
    rw [edit, add] at h
    by_cases hid : (s.rules.any (·.id = r.id)) = true
    · rw [if_pos hid] at h
      cases h
    · rw [if_neg hid] at h
      exact .inl ⟨r, rfl, by simpa [ids] using hid, (Except.ok.inj h).symm⟩
  | replace id changes =>
    rw [edit, replace] at h
    rcases first_cases id s.rules with hnone | ⟨before, r, after, hrules, hbefore, hr⟩
    · rw [replaceIn_of_forall _ hnone] at h
      cases h
    · rw [hrules, replaceIn_append _ hbefore hr] at h
      cases hupdate : r.update changes with
      | error f => rw [hupdate] at h; cases h
      | ok r' =>
        rw [hupdate] at h
        exact .inr (.inl ⟨id, changes, before, r, r', after, rfl, hrules, hbefore, hr, hupdate,
          (Except.ok.inj h).symm⟩)
  | remove id => exact .inr (.inr ⟨id, rfl, (Except.ok.inj h).symm⟩)

theorem run_snoc (s : RuleSet) (before : List Edit) (e : Edit) :
    s.run (before ++ [e]) = ((perform e).outcome (s.run before)).2 := by
  rw [run, run, List.foldl_append]
  rfl

/-- After one more edit a set is what the edit makes of it, or as before. -/
theorem run_snoc_cases (s : RuleSet) (before : List Edit) (e : Edit) :
    (s.run before).edit e = .ok (s.run (before ++ [e])) ∨
      (∃ f, (s.run before).edit e = .error f) ∧ s.run (before ++ [e]) = s.run before := by
  rw [run_snoc, outcome_perform]
  cases (s.run before).edit e with
  | ok s' => exact .inl rfl
  | error f => exact .inr ⟨⟨f, rfl⟩, rfl⟩

/-- What holds of no rules and is kept by adding a rule that was read and has a new id holds of a set that was read. -/
theorem ofValue_induction {motive : List Rule → Prop} {v : Value} {s : RuleSet} (h : ofValue v = .ok s)
    (nil : motive []) (snoc : ∀ (l : List Rule) (r : Rule) (w : Value), motive l → Rule.ofValue w = .ok r →
      r.id ∉ l.map (·.id) → motive (l ++ [r])) : motive s.rules := by
  have hfold : ∀ (items : List Value) (s₀ : RuleSet), motive s₀.rules →
      items.foldlM (fun s r => do s.add (← Rule.ofValue r)) s₀ = .ok s → motive s.rules := by
    intro items
    induction items with
    | nil =>
      intro s₀ hs₀ hfold
      rwa [← Except.ok.inj hfold]
    | cons w items ih =>
      intro s₀ hs₀ hfold
      obtain ⟨s₁, hadd, hrest⟩ := except_bind_eq_ok hfold
      obtain ⟨r, hr, hadd⟩ := except_bind_eq_ok hadd
      refine ih s₁ ?_ hrest
      obtain ⟨r', he, hid, rfl⟩ | ⟨_, _, _, _, _, _, he, _⟩ | ⟨_, he, _⟩ := edit_cases (e := .add r) hadd
      · cases he
        exact snoc s₀.rules r w hs₀ hr hid
      · cases he
      · cases he
  cases v with
  | map m =>
    obtain ⟨items, -, hitems⟩ := except_bind_eq_ok h
    exact hfold items _ nil hitems
  | _ => cases h

/-! ### Sound rules -/

theorem sound_ofValue {v : Value} {s : RuleSet} (h : ofValue v = .ok s) : ∀ r ∈ s.rules, r.Sound := by
  refine ofValue_induction (motive := fun l => ∀ r ∈ l, r.Sound) h (List.forall_mem_nil _) fun l r w hl hr _ => ?_
  rw [List.forall_mem_append]
  exact ⟨hl, List.forall_mem_singleton.2 (Rule.sound_of_ofValue hr)⟩

theorem sound_edit {s s' : RuleSet} {e : Edit} (hs : ∀ r ∈ s.rules, r.Sound) (hadd : ∀ r, e = .add r → r.Sound)
    (h : s.edit e = .ok s') : ∀ r ∈ s'.rules, r.Sound := by
  obtain ⟨r, rfl, -, rfl⟩ | ⟨id, changes, before, r, r', after, rfl, hrules, -, -, hupdate, rfl⟩ | ⟨id, rfl, rfl⟩ :=
    edit_cases h
  · rw [List.forall_mem_append]
    exact ⟨hs, List.forall_mem_singleton.2 (hadd r rfl)⟩
  · rw [hrules, List.forall_mem_append, List.forall_mem_cons] at hs
    rw [List.forall_mem_append, List.forall_mem_cons]
    exact ⟨hs.1, Rule.sound_of_update hupdate, hs.2.2⟩
  · exact fun r hr => hs r (List.mem_filter.1 hr).1

theorem sound_run {s : RuleSet} (hs : ∀ r ∈ s.rules, r.Sound) (edits : List Edit)
    (hadd : ∀ r, .add r ∈ edits → r.Sound) : ∀ r ∈ (s.run edits).rules, r.Sound := by
  induction edits using List.reverseRecOn with
  | nil => exact hs
  | append_singleton before e ih =>
    have hbefore := ih fun r hr => hadd r (by simp [hr])
    rcases run_snoc_cases s before e with h | ⟨-, h⟩
    · exact sound_edit hbefore (fun r he => hadd r (by simp [he])) h
    · rwa [h]

/-- Replacing a rule without changing anything keeps a set of sound rules. -/
theorem edit_unchanged {s : RuleSet} (hs : ∀ r ∈ s.rules, r.Sound) {id : String} (hid : id ∈ s.ids) :
    s.edit (.replace id []) = .ok s := by
  rcases first_cases id s.rules with h | ⟨before, r, after, hrules, hbefore, hr⟩
  · obtain ⟨r, hr, rfl⟩ := List.mem_map.1 hid
    exact absurd rfl (h r hr)
  · have hsound : r.Sound := hs r (by simp [hrules])
    rw [edit, replace, hrules, replaceIn_append _ hbefore hr, hsound.update_nil]
    simp only [Except.map, ← hrules]

theorem edit_unknown {s : RuleSet} {id : String} (hid : id ∉ s.ids) (changes : List (Scalar × Value)) :
    s.edit (.replace id changes) = .error (.rule (.unknownRule id s.id)) := by
  rw [edit, replace, replaceIn_of_forall]
  exact fun r hr he => hid (List.mem_map.2 ⟨r, hr, he⟩)

/-- However a set that was read is edited with rules that can be made, its rules stay sound, an edit that fails leaves
it as it was, and so does a replacement that changes nothing. A rule that was read is read back from what it is
written as. -/
theorem edits_sound {v : Value} {s : RuleSet} (h : ofValue v = .ok s) {edits : List Edit}
    (hadd : ∀ r, .add r ∈ edits → ∃ d : Draft, d.toRule = .ok r) :
    (∀ before, before <+: edits → ∀ r ∈ (s.run before).rules,
      r.Sound ∧ r.severity ∈ Severity.all ∧ ∀ t ∈ r.targets, t ∈ Target.options) ∧
    (∀ before e f, before ++ [e] <+: edits → ((perform e).outcome (s.run before)).1 = .error f →
      s.run (before ++ [e]) = s.run before) ∧
    (∀ before id, before <+: edits → s.run (before ++ [.replace id []]) = s.run before ∧
      ((perform (.replace id [])).outcome (s.run before)).1 =
        if id ∈ (s.run before).ids then .ok () else .error (.rule (.unknownRule id (s.run before).id))) ∧
    ∀ w r, Rule.ofValue w = .ok r → Rule.ofValue r.plain = .ok r := by
  have hsound : ∀ before, before <+: edits → ∀ r ∈ (s.run before).rules, r.Sound := fun before hbefore =>
    sound_run (sound_ofValue h) before fun r hr => Rule.exists_draft_iff.1 (hadd r (hbefore.subset hr))
  refine ⟨fun before hbefore r hr => ⟨hsound before hbefore r hr, r.severity.mem_all, fun t _ => t.mem_options⟩,
    fun before e f _ hf => ?_, fun before id hbefore => ?_, fun w r hr => Rule.ofValue_plain hr⟩
  · rcases run_snoc_cases s before e with he | ⟨-, he⟩
    · rw [outcome_perform, he] at hf
      cases hf
    · exact he
  · rw [run_snoc, outcome_perform]
    by_cases hid : id ∈ (s.run before).ids
    · rw [edit_unchanged (hsound before hbefore) hid, if_pos hid]
      exact ⟨rfl, rfl⟩
    · rw [edit_unknown hid, if_neg hid]
      exact ⟨rfl, rfl⟩

end edits

/-- A set whose rules leave out what has a default, and two rules as they are read. -/
def plantValue : Value := .record [
  ("id", .text "plant"),
  ("rules", .list [
    .record [("id", .text "inputs"), ("name", .text "Inputs"), ("pattern", .text "^DI"),
      ("applies_to", .text "Tag, module")],
    .record [("name", .text "Outputs"), ("pattern", .text "^DO"), ("severity", .text "ERROR")]])]

def plantInputs : Rule where
  id := "inputs"
  name := .text "Inputs"
  pattern := "^DI"
  targets := [.kind .tag, .kind .module]
  shape := .seq (.seq (.anchor .textStart) (.one { items := [.range 68 68] })) (.one { items := [.range 73 73] })

def plantSet : RuleSet where
  id := "plant"
  name := .text "plant"
  rules := [plantInputs,
    { id := "Outputs", name := .text "Outputs", pattern := "^DO", targets := [.all], severity := .error
      shape := .seq (.seq (.anchor .textStart) (.one { items := [.range 68 68] })) (.one { items := [.range 79 79] }) }]

theorem ofValue_plantValue : ofValue plantValue = .ok plantSet := rfl

def plantMore : Rule := { plantInputs with id := "more" }

/-- A rule is added, taken out of use and removed; in between a pattern that cannot be read is refused. -/
def plantEdits : List Edit :=
  [.add plantMore, .replace "more" [(.text "is_active", .bool false)],
    .replace "inputs" [(.text "pattern", .text "(")], .remove "more"]

theorem edits_sound_plant :
    ofValue plantValue = .ok plantSet ∧ (∀ r, .add r ∈ plantEdits → ∃ d : Draft, d.toRule = .ok r) ∧
    (∀ r ∈ (plantSet.run plantEdits).rules, r.Sound) := by
  have hadd : ∀ r, .add r ∈ plantEdits → ∃ d : Draft, d.toRule = .ok r := by
    intro r hr
    obtain he | hr := List.mem_cons.1 hr
    · obtain rfl := Edit.add.inj he
      exact ⟨plantMore.draft, rfl⟩
    · simp at hr
  refine ⟨ofValue_plantValue, hadd, fun r hr => ?_⟩
  exact ((edits_sound ofValue_plantValue hadd).1 plantEdits (List.prefix_refl _) r hr).1

end RuleSet

/-! ### Distinct ids -/

/-- The id that changes give to a rule: the last one they state, otherwise the one it has. -/
def idAfter (id : String) (changes : List (Scalar × Value)) : String :=
  changes.foldl (fun id c => match c with | (.text "id", v) => v.shown | _ => id) id

/-- A replacement is carried out and gives a rule the id of another one. -/
def Edit.Takes [Text.CharacterNames] (s : RuleSet) : Edit → Prop
  | .replace id changes =>
    (∃ s', s.edit (.replace id changes) = .ok s') ∧ idAfter id changes ≠ id ∧ idAfter id changes ∈ s.ids
  | _ => False

theorem Draft.id_of_set {d d' : Draft} {k : Scalar} {v : Value} (h : d.set k v = .ok d') :
    d'.id.shown = match (k, v) with | (.text "id", v) => v.shown | _ => d.id.shown := by
  unfold Draft.set at h
  split at h
  case h_8 => cases h
  all_goals
    obtain rfl := Except.ok.inj h
    rfl

theorem Draft.id_of_foldlM_set {d d' : Draft} {changes : List (Scalar × Value)}
    (h : changes.foldlM (fun d (k, v) => d.set k v) d = .ok d') : d'.id.shown = idAfter d.id.shown changes := by
  induction changes generalizing d with
  | nil =>
    rw [← Except.ok.inj h]
    rfl
  | cons c changes ih =>
    obtain ⟨d₁, hset, hrest⟩ := except_bind_eq_ok h
    rw [ih hrest, id_of_set hset]
    rfl

theorem Rule.id_of_update [Text.CharacterNames] {r r' : Rule} {changes : List (Scalar × Value)}
    (h : r.update changes = .ok r') : r'.id = idAfter r.id changes := by
  obtain ⟨d, hd, h⟩ := except_bind_eq_ok h
  rw [(Draft.sound_of_toRule h).2, Draft.id_of_foldlM_set hd]
  rfl

namespace RuleSet

section edits
variable [Text.CharacterNames]

theorem nodup_ids_edit_iff {s s' : RuleSet} {e : Edit} (hs : s.ids.Nodup) (h : s.edit e = .ok s') :
    s'.ids.Nodup ↔ ¬ e.Takes s := by
  obtain ⟨r, rfl, hid, rfl⟩ | ⟨_, changes, before, r, r', after, rfl, hrules, -, rfl, hupdate, rfl⟩ | ⟨_, rfl, rfl⟩ :=
    edit_cases h
  · refine iff_of_true ?_ fun h => h
    rw [ids, List.map_append, List.map_singleton, ← List.concat_eq_append]
    exact hs.concat hid
  · have hids : s.ids = before.map (·.id) ++ r.id :: after.map (·.id) := by
      rw [ids, hrules, List.map_append, List.map_cons]
    rw [hids, List.nodup_middle, List.nodup_cons, List.mem_append] at hs
    have htakes : (Edit.replace r.id changes).Takes s ↔ r'.id ≠ r.id ∧ r'.id ∈ s.ids := by
      rw [Rule.id_of_update hupdate]
      exact and_iff_right ⟨_, h⟩
    -- the id of `r` itself is the one that may stay
    have hother : r'.id ≠ r.id ∧ r'.id ∈ s.ids ↔ r'.id ∈ before.map (·.id) ∨ r'.id ∈ after.map (·.id) := by
      rw [hids, List.mem_append, List.mem_cons]
      constructor
      · rintro ⟨hne, hmem⟩
        exact hmem.imp_right fun h => h.resolve_left hne
      · intro hmem
        exact ⟨fun he => hs.1 (he ▸ hmem), hmem.imp_right .inr⟩
    rw [htakes, hother, ids, List.map_append, List.map_cons, List.nodup_middle, List.nodup_cons, and_iff_left hs.2,
      List.mem_append]
  · refine iff_of_true ?_ fun h => h
    exact hs.sublist (List.filter_sublist.map _)

theorem nodup_ids_ofValue {v : Value} {s : RuleSet} (h : ofValue v = .ok s) : s.ids.Nodup := by
  refine ofValue_induction (motive := fun l => (l.map (·.id)).Nodup) h List.nodup_nil fun l r w hl _ hid => ?_
  rw [List.map_append, List.map_singleton, ← List.concat_eq_append]
  exact hl.concat hid

/-- While a set that was read is edited, the ids of its rules are distinct all the time if and only if no replacement
gives a rule the id of another one. -/
theorem nodup_ids_iff {v : Value} {s : RuleSet} (h : ofValue v = .ok s) (edits : List Edit) :
    (∀ before, before <+: edits → (s.run before).ids.Nodup) ↔
      ∀ before e, before ++ [e] <+: edits → ¬ e.Takes (s.run before) := by
  constructor
  · intro hall before e hbefore
    have hnow := hall before ((List.prefix_append _ _).trans hbefore)
    rcases run_snoc_cases s before e with he | ⟨⟨f, hf⟩, -⟩
    · exact (nodup_ids_edit_iff hnow he).1 (hall _ hbefore)
    · cases e with
      | replace id changes =>
        rintro ⟨⟨s', hs'⟩, -⟩
        rw [hf] at hs'
        cases hs'
      | _ => exact fun h => h
  · intro hnone before
    induction before using List.reverseRecOn with
    | nil => exact fun _ => nodup_ids_ofValue h
    | append_singleton before e ih =>
      intro hbefore
      have hnow := ih ((List.prefix_append _ _).trans hbefore)
      rcases run_snoc_cases s before e with he | ⟨-, he⟩
      · exact (nodup_ids_edit_iff hnow he).2 (hnone before e hbefore)
      · rwa [he]

end edits

/-- One rule is given the id of the other one. -/
def plantRenaming : Edit := .replace "Outputs" [(.text "id", .text "inputs")]

theorem nodup_ids_iff_plant :
    ofValue plantValue = .ok plantSet ∧
    ¬ ∀ before e, before ++ [e] <+: [plantRenaming] → ¬ e.Takes (plantSet.run before) := by
  refine ⟨ofValue_plantValue, fun h => ?_⟩
  have hall := (nodup_ids_iff ofValue_plantValue [plantRenaming]).2 h [plantRenaming] (List.prefix_refl _)
  exact absurd hall (by decide)

/-- A replacement is not kept from repeating an id. -/
theorem replace_repeats_id :
    ofValue plantValue = .ok plantSet ∧ ((perform plantRenaming).outcome plantSet).1 = .ok () ∧
    (plantSet.run [plantRenaming]).ids = ["inputs", "inputs"] ∧ ¬ (plantSet.run [plantRenaming]).ids.Nodup :=
  ⟨ofValue_plantValue, rfl, rfl, by decide⟩

end RuleSet

end LadderAtlas.Naming
