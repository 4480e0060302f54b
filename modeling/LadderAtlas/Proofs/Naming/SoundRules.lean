import LadderAtlas.Naming.Rule
import LadderAtlas.Proofs.Number.Written

/-!
# What a rule that has been made is like

A rule is made from a draft, by whatever way it comes about. The rules that can be made are the sound ones
(`exists_draft_iff`): the checks ask for no less, and a sound rule is made again from its own draft, since what is
normalised already is left as it is. So a rule is read back from the map it is written as (`ofValue_plain`), and
changing nothing keeps it (`Sound.update_nil`).
-/

namespace LadderAtlas

/-- What counts as true is not shown as an empty text. -/
theorem Value.shown_ne_empty {v : Value} (h : v.truthy = true) : v.shown ≠ "" := by
  cases v with
  | scalar s =>
    cases s with
    | null => cases h
    | bool b => cases b <;> decide
    | whole n => exact Number.wholeText_ne_empty n
    | fraction x => exact Number.floatText_ne_empty x
    | text s => exact Value.truthy_text_iff.1 h
  | list l => exact fun he => absurd (congrArg String.toList he) (by simp [Value.shown, Value.revealed])
  | map m => exact fun he => absurd (congrArg String.toList he) (by simp [Value.shown, Value.revealed])

namespace Naming

/-- The pattern has been read, and nothing that has to be there is missing. Severity and targets are known ones by
their types. -/
structure Rule.Sound [Text.CharacterNames] (r : Rule) : Prop where
  /-- An empty text does not count as true. -/
  named : r.name.truthy = true
  stated : r.pattern ≠ ""
  compiled : Pattern.ofText [] r.pattern = .ok r.shape
  aimed : r.targets ≠ []

section
variable {α β : Type}

theorem except_bind_eq_ok {x : Except Failure α} {f : α → Except Failure β} {b : β} (h : x >>= f = .ok b) :
    ∃ a, x = .ok a ∧ f a = .ok b := by
  cases x with
  | error e => cases h
  | ok a => exact ⟨a, rfl, h⟩

theorem eq_ok_of_mapError {ε : Type} {g : ε → Failure} {x : Except ε α} {a : α} (h : x.mapError g = .ok a) :
    x = .ok a := by
  cases x with
  | error e => cases h
  | ok a' => exact congrArg Except.ok (Except.ok.inj h)

end

/-! ### Making a rule -/

namespace Draft

theorem targets_ne_nil {v : Value} {l : List Target} (h : targets v = .ok l) : l ≠ [] := by
  obtain ⟨names, -, h⟩ := except_bind_eq_ok h
  by_cases hempty : names.isEmpty = true
  · simp only [hempty] at h
    cases h
  · by_cases hunknown : (names.filter fun n => (Target.ofName? n).isNone).isEmpty = true
    · simp only [hempty, hunknown] at h
      obtain rfl := Except.ok.inj h
      rw [List.isEmpty_iff, List.filter_eq_nil_iff] at hunknown
      cases names with
      | nil => exact absurd rfl hempty
      | cons n names =>
        obtain ⟨t, ht⟩ := Option.ne_none_iff_exists'.1 (by simpa using hunknown n (by simp))
        rw [List.filterMap_cons_some ht]
        exact List.cons_ne_nil _ _
    · simp only [hempty, hunknown] at h
      cases h

variable [Text.CharacterNames] {d : Draft} {r : Rule}

theorem toRule_incomplete (h : d.name.truthy = false ∨ d.pattern.truthy = false) :
    d.toRule = .error (.rule .incomplete) := by
  have hcond : (!d.name.truthy || !d.pattern.truthy) = true := by
    rcases h with h | h <;> simp [h]
  simp only [toRule, hcond]
  rfl

/-- The checks after the first one, in order. -/
theorem toRule_of_truthy (hname : d.name.truthy = true) (hpattern : d.pattern.truthy = true) :
    d.toRule =
      match d.pattern.text? with
      | none => .error (.fault .wrongKind)
      | some pattern => do
        let shape ← (Pattern.ofText [] pattern).mapError patternFailure
        let severity ← severityOf d.severity
        let targets ← targets d.appliesTo
        return {
          id := d.id.shown
          name := d.name
          pattern
          targets
          severity
          isActive := d.isActive.truthy
          description := d.description
          shape } := by
  have hcond : (!d.name.truthy || !d.pattern.truthy) = false := by simp [hname, hpattern]
  simp only [toRule, hcond]
  cases d.pattern.text? <;> rfl

/-- A rule that is made is sound, and has the id of its draft. -/
theorem sound_of_toRule (h : d.toRule = .ok r) : r.Sound ∧ r.id = d.id.shown := by
  cases hname : d.name.truthy with
  | false => rw [toRule_incomplete (.inl hname)] at h; cases h
  | true =>
    cases hpattern : d.pattern.truthy with
    | false => rw [toRule_incomplete (.inr hpattern)] at h; cases h
    | true =>
      rw [toRule_of_truthy hname hpattern] at h
      cases htext : d.pattern.text? with
      | none => rw [htext] at h; cases h
      | some pattern =>
        rw [htext] at h
        rw [Value.text?_eq_some_iff.1 htext, Value.truthy_text_iff] at hpattern
        obtain ⟨shape, hshape, h⟩ := except_bind_eq_ok h
        obtain ⟨severity, -, h⟩ := except_bind_eq_ok h
        obtain ⟨targets, htargets, h⟩ := except_bind_eq_ok h
        obtain rfl := Except.ok.inj h
        exact ⟨⟨hname, hpattern, eq_ok_of_mapError hshape, targets_ne_nil htargets⟩, rfl⟩

end Draft

/-! ### Making it again -/

namespace Severity

theorem mem_all (s : Severity) : s ∈ all := by
  cases s <;> decide

theorem severityOf_name (s : Severity) : Draft.severityOf (.text s.name) = .ok s := by
  cases s <;> rfl

end Severity

namespace Target

theorem ofName?_name (t : Target) : ofName? t.name = some t := by
  cases t with
  | kind k => cases k <;> decide
  | _ => decide

theorem mem_options (t : Target) : t ∈ options := List.mem_of_find?_eq_some t.ofName?_name

/-- The names of targets are in the form that names are put into. -/
theorem name_normal (t : Target) :
    t.name.toList ≠ [] ∧ Text.trim t.name.toList = t.name.toList ∧ Text.lower t.name.toList = t.name.toList := by
  cases t with
  | kind k => cases k <;> decide
  | _ => decide

theorem targetNames_names (l : List Target) : Draft.targetNames (.texts (l.map name)) = .ok (l.map name) := by
  have hshown : ((l.map name).map Value.text).map (fun w => w.shown.toList) = l.map (·.name.toList) := by
    rw [List.map_map, List.map_map]
    rfl
  have htrim : (l.map (·.name.toList)).map Text.trim = l.map (·.name.toList) := by
    rw [List.map_map]
    exact List.map_congr_left fun t _ => t.name_normal.2.1
  have hfilter : (l.map (·.name.toList)).filter (· ≠ []) = l.map (·.name.toList) := by
    rw [List.filter_eq_self]
    intro s hs
    obtain ⟨t, -, rfl⟩ := List.mem_map.1 hs
    simpa using t.name_normal.1
  have hlower : (l.map (·.name.toList)).map (fun s => String.ofList (Text.lower s)) = l.map name := by
    rw [List.map_map]
    refine List.map_congr_left fun t _ => ?_
    rw [Function.comp_apply, t.name_normal.2.2, String.ofList_toList]
  simp only [Draft.targetNames, Value.texts, Value.items?, hshown, htrim, hfilter, hlower]

theorem targets_names {l : List Target} (h : l ≠ []) : Draft.targets (.texts (l.map name)) = .ok l := by
  have hknown : (l.map name).filter (fun n => (ofName? n).isNone) = [] := by
    rw [List.filter_eq_nil_iff]
    intro n hn
    obtain ⟨t, -, rfl⟩ := List.mem_map.1 hn
    simp [ofName?_name]
  have hback : ofName? ∘ name = some := funext ofName?_name
  have hread : (l.map name).filterMap ofName? = l := by
    rw [List.filterMap_map, hback, List.filterMap_some]
  have hempty : (l.map name).isEmpty = false := by
    simpa [List.isEmpty_iff] using h
  rw [Draft.targets, targetNames_names]
  show (if (l.map name).isEmpty then _ else _) = _
  simp only [hempty, hknown, hread]
  rfl

end Target

namespace Rule
variable [Text.CharacterNames] {r : Rule}

/-- A sound rule is made from its own draft. -/
theorem Sound.toRule_draft (h : r.Sound) : r.draft.toRule = .ok r := by
  rw [Draft.toRule_of_truthy h.named (Value.truthy_text_iff.2 h.stated)]
  show (do
    let shape ← (Pattern.ofText [] r.pattern).mapError Draft.patternFailure
    let severity ← Draft.severityOf (.text r.severity.name)
    let targets ← Draft.targets (.texts r.targetNames)
    return { r with targets, severity, shape } : Except Failure Rule) = _
  rw [h.compiled, Severity.severityOf_name, targetNames, Target.targets_names h.aimed]
  rfl

theorem exists_draft_iff : (∃ d : Draft, d.toRule = .ok r) ↔ r.Sound :=
  ⟨fun ⟨_, hd⟩ => (Draft.sound_of_toRule hd).1, fun h => ⟨r.draft, h.toRule_draft⟩⟩

theorem Sound.update_nil (h : r.Sound) : r.update [] = .ok r := h.toRule_draft

theorem sound_of_update {changes : List (Scalar × Value)} {r' : Rule} (h : r.update changes = .ok r') : r'.Sound := by
  obtain ⟨d, -, hd⟩ := except_bind_eq_ok h
  exact (Draft.sound_of_toRule hd).1

theorem sound_of_ofValue {v : Value} (h : ofValue v = .ok r) : r.Sound := by
  cases v with
  | map m => exact (Draft.sound_of_toRule h).1
  | _ => cases h

/-! ### Writing a rule and reading it back -/

/-- The id of a rule that is read is not empty, for its name serves as one. -/
theorem id_ne_empty {v : Value} (h : ofValue v = .ok r) : r.id ≠ "" := by
  cases v with
  | map m =>
    obtain ⟨-, hid⟩ := Draft.sound_of_toRule h
    have hname : (Draft.ofEntries m).name.truthy = true := by
      cases hname : (Draft.ofEntries m).name.truthy with
      | true => rfl
      | false => rw [ofValue, Draft.toRule_incomplete (.inl hname)] at h; cases h
    rw [hid]
    refine Value.shown_ne_empty ?_
    show (Value.orElse _ _).truthy = true
    unfold Value.orElse
    split
    · assumption
    · exact hname
  | _ => cases h

/-- What a rule is written as says what its draft says. -/
theorem ofValue_plain_eq (h : r.id ≠ "") : ofValue r.plain = r.draft.toRule := by
  have hid : (Value.text r.id).orElse r.name = .text r.id := if_pos (Value.truthy_text_iff.2 h)
  show Draft.toRule { r.draft with id := (Value.text r.id).orElse r.name } = _
  rw [hid]
  rfl

theorem ofValue_plain {v : Value} (h : ofValue v = .ok r) : ofValue r.plain = .ok r := by
  rw [ofValue_plain_eq (id_ne_empty h), (sound_of_ofValue h).toRule_draft]

end Rule

end Naming

end LadderAtlas
