import LadderAtlas.Naming.Validation
import LadderAtlas.Proofs.StableSort
import Mathlib.Algebra.Order.Ring.Unbundled.Rat
import Mathlib.Data.List.Nodup
import Mathlib.Data.List.Perm.Basic
import Mathlib.Data.List.ProdSigma

/-!
# Which names are violations

An active rule is broken by each thing that it is about and whose name it does not accept. A validation lists one
violation for each such pair, sorted by kind, name, scope and rule, and counts the things that some active rule is
about (`reports_validateWith`). Two things of a document that agree in kind, name and scope are one that is declared
twice, so with distinct ids of rules the order tells any two violations apart, and it does not matter in which order
rules and things are given (`validateWith_perm`).
-/

namespace LadderAtlas.Naming

/-! ### What a rule is about -/

/-- A rule is about all things, about those of some kinds, or about the tags of the controller or of programs. -/
def Rule.Concerns (r : Rule) (e : Entity) : Prop :=
  .all ∈ r.targets ∨ .kind e.kind ∈ r.targets ∨
    e.kind = .tag ∧ ∃ scope, e.scope = some scope ∧
      (.controller ∈ r.targets ∧ scopeProgram scope = none ∨ .program ∈ r.targets ∧ scopeProgram scope ≠ none)

theorem Target.covers_iff (t : Target) (e : Entity) : t.covers e.kind e.scope = true ↔
    t = .all ∨ t = .kind e.kind ∨ e.kind = .tag ∧ ∃ scope, e.scope = some scope ∧
      (t = .controller ∧ scopeProgram scope = none ∨ t = .program ∧ scopeProgram scope ≠ none) := by
  cases t with
  | all => simp [covers]
  | kind k => simp [covers]
  | controller => simp [covers, Option.any_eq_true]
  | program => simp [covers, Option.any_eq_true, Option.isSome_iff_ne_none]

theorem Rule.applies_iff (r : Rule) (e : Entity) : r.applies e.kind e.scope = true ↔ r.Concerns e := by
  simp only [applies, List.any_eq_true, Target.covers_iff, Concerns]
  constructor
  · rintro ⟨t, ht, rfl | rfl | ⟨hkind, scope, hscope, ⟨rfl, hnone⟩ | ⟨rfl, hsome⟩⟩⟩
    · exact .inl ht
    · exact .inr (.inl ht)
    · exact .inr (.inr ⟨hkind, scope, hscope, .inl ⟨ht, hnone⟩⟩)
    · exact .inr (.inr ⟨hkind, scope, hscope, .inr ⟨ht, hsome⟩⟩)
  · rintro (ht | ht | ⟨hkind, scope, hscope, ⟨ht, hnone⟩ | ⟨ht, hsome⟩⟩)
    · exact ⟨_, ht, .inl rfl⟩
    · exact ⟨_, ht, .inr (.inl rfl)⟩
    · exact ⟨_, ht, .inr (.inr ⟨hkind, scope, hscope, .inl ⟨rfl, hnone⟩⟩)⟩
    · exact ⟨_, ht, .inr (.inr ⟨hkind, scope, hscope, .inr ⟨rfl, hsome⟩⟩)⟩

instance (r : Rule) (e : Entity) : Decidable (r.Concerns e) := decidable_of_iff _ (r.applies_iff e)

/-! ### The violations -/

/-- What violations are sorted by. The name of a rule counts by the kind of name, a number by its value and a text by
itself. -/
def Violation.sortKey (v : Violation) : String ×ₗ String ×ₗ String ×ₗ ℕ ×ₗ ℚ ×ₗ String ×ₗ String :=
  let (rank, number, text) := nameKey v.ruleName
  toLex (v.entity.kind.code, toLex (v.entity.name, toLex (v.entity.scope.getD "",
    toLex (rank, toLex (number, toLex (text, v.ruleId))))))

theorem Violation.le_iff (a b : Violation) : Violation.le a b = true ↔ a.sortKey ≤ b.sortKey := by
  have hrank (m n : ℕ) : Nat.ble m n = true ↔ m ≤ n := by rw [Nat.ble_eq]
  have hnumber (x y : ℚ) : (!Rat.blt y x) = true ↔ x ≤ y := by
    rw [Bool.not_eq_true', ← Bool.not_eq_true, ← not_lt]
    rfl
  have hname := pairLe_iff_toLex hrank (pairLe_iff_toLex hnumber (pairLe_iff_toLex textLe_iff textLe_iff))
  exact pairLe_iff_toLex textLe_iff (pairLe_iff_toLex textLe_iff (pairLe_iff_toLex textLe_iff hname)) _ _

/-- A thing and an active rule that is about it and does not accept its name. -/
def Breaks (accepts : Rule → String → Bool) (e : Entity) (r : Rule) : Prop :=
  r.isActive = true ∧ r.Concerns e ∧ accepts r e.name = false

instance (accepts : Rule → String → Bool) (e : Entity) (r : Rule) : Decidable (Breaks accepts e r) :=
  inferInstanceAs (Decidable (_ ∧ _))

/-- One violation for each pair of a thing and a rule that it breaks. -/
def breaches (accepts : Rule → String → Bool) (rules : List Rule) (entities : List Entity) : List Violation :=
  ((entities ×ˢ rules).filter fun p => Breaks accepts p.1 p.2).map fun p => ⟨p.2.id, p.2.name, p.2.severity, p.1⟩

theorem flatMap_violationsBy (accepts : Rule → String → Bool) (rules : List Rule) (entities : List Entity) :
    entities.flatMap (violationsBy accepts (rules.filter (·.isActive))) = breaches accepts rules entities := by
  have hbreaks (e : Entity) (r : Rule) :
      (r.applies e.kind e.scope && !accepts r e.name && r.isActive) = decide (Breaks accepts e r) := by
    rw [Bool.eq_iff_iff, decide_eq_true_iff, Breaks, ← r.applies_iff e]
    simp only [Bool.and_eq_true, Bool.not_eq_true']
    tauto
  induction entities with
  | nil => rfl
  | cons e l ih =>
    simp only [List.flatMap_cons, ih, violationsBy, List.filter_filter, hbreaks, breaches, List.product_cons,
      List.filter_append, List.map_append, List.filter_map, List.map_map]
    rfl

/-- What a validation says about names: each breach is one violation, in order, and each thing that some active rule
is about counts as one name that was checked. -/
structure Validation.Reports (v : Validation) (accepts : Rule → String → Bool) (rules : List Rule)
    (entities : List Entity) : Prop where
  breaches : v.violations.Perm (breaches accepts rules entities)
  ordered : v.violations.Pairwise fun a b => a.sortKey ≤ b.sortKey
  namesChecked : v.namesChecked = entities.countP fun e => ∃ r ∈ rules, r.isActive = true ∧ r.Concerns e
  rulesApplied : v.rulesApplied = rules.countP (·.isActive)
  penalized : v.penalized = v.count .error + v.count .warning
  total : v.count .error + v.count .warning + v.count .info = v.violations.length

theorem isStableSort_violations (accepts : Rule → String → Bool) (rules : List Rule) (entities : List Entity)
    (tags : List Tag) : IsStableSort Violation.sortKey (breaches accepts rules entities)
      (validateWith accepts rules entities tags).violations := by
  rw [← flatMap_violationsBy]
  exact isStableSort_mergeSort Violation.le_iff _

namespace Validation

theorem penalized_eq (v : Validation) : v.penalized = v.count .error + v.count .warning := by
  simp only [penalized, count]
  induction v.violations with
  | nil => rfl
  | cons a l ih =>
    simp only [List.countP_cons, ih]
    cases a.severity <;> simp [Severity.isPenalized] <;> omega

theorem length_violations (v : Validation) :
    v.count .error + v.count .warning + v.count .info = v.violations.length := by
  simp only [count]
  induction v.violations with
  | nil => rfl
  | cons a l ih =>
    simp only [List.countP_cons, List.length_cons, ← ih]
    cases a.severity <;> simp <;> omega

end Validation

theorem reports_validateWith (accepts : Rule → String → Bool) (rules : List Rule) (entities : List Entity)
    (tags : List Tag) : (validateWith accepts rules entities tags).Reports accepts rules entities where
  breaches := (isStableSort_violations accepts rules entities tags).perm
  ordered := (isStableSort_violations accepts rules entities tags).ordered
  namesChecked := by
    refine List.countP_congr fun e _ => ?_
    simp only [List.any_filter, List.any_eq_true, Bool.and_eq_true, decide_eq_true_iff, Rule.applies_iff]
  rulesApplied := List.countP_eq_length_filter.symm
  penalized := Validation.penalized_eq _
  total := Validation.length_violations _

/-! ### The order in which rules and things come -/

/-- All that has a name in some snapshots. -/
def entitiesIn (snapshots : List Snapshot) : List Entity := snapshots.flatMap fun s => entitiesOf s.document

theorem isSome_scope {snapshots : List Snapshot} {e : Entity} (h : e ∈ entitiesIn snapshots) :
    e.scope.isSome = true ↔ e.kind = .tag ∨ e.kind = .routine := by
  obtain ⟨s, -, he⟩ := List.mem_flatMap.1 h
  simp only [entitiesOf, List.mem_append, List.mem_map, or_assoc] at he
  obtain ⟨_, -, rfl⟩ | ⟨_, -, rfl⟩ | ⟨_, -, rfl⟩ | ⟨_, -, rfl⟩ | ⟨_, -, rfl⟩ | ⟨_, -, rfl⟩ | ⟨_, -, rfl⟩ := he
  all_goals simp

theorem code_injective {k k' : EntityKind} (h : k.code = k'.code) : k = k' := by
  revert h
  cases k <;> cases k' <;> decide

/-- Whether a thing has a scope is told by its kind, so no scope and the empty one are not mistaken for each other. -/
theorem entity_eq {snapshots : List Snapshot} {e e' : Entity} (h : e ∈ entitiesIn snapshots)
    (h' : e' ∈ entitiesIn snapshots) (hkind : e.kind = e'.kind) (hname : e.name = e'.name)
    (hscope : e.scope.getD "" = e'.scope.getD "") : e = e' := by
  have hsome : e.scope.isSome = true ↔ e'.scope.isSome = true := by rw [isSome_scope h, isSome_scope h', hkind]
  obtain ⟨k, n, scope⟩ := e
  obtain ⟨k', n', scope'⟩ := e'
  cases hkind
  cases hname
  cases scope <;> cases scope' <;> simp_all

variable {accepts : Rule → String → Bool} {rules rules' : List Rule} {entities entities' : List Entity}

theorem mem_breaches {v : Violation} : v ∈ breaches accepts rules entities ↔
    ∃ e ∈ entities, ∃ r ∈ rules, Breaks accepts e r ∧ v = ⟨r.id, r.name, r.severity, e⟩ := by
  simp only [breaches, List.mem_map, List.mem_filter, List.mem_product, Prod.exists, decide_eq_true_iff]
  constructor
  · rintro ⟨e, r, ⟨⟨he, hr⟩, hbreaks⟩, rfl⟩
    exact ⟨e, he, r, hr, hbreaks, rfl⟩
  · rintro ⟨e, he, r, hr, hbreaks, rfl⟩
    exact ⟨e, r, ⟨⟨he, hr⟩, hbreaks⟩, rfl⟩

theorem breaches_perm (accepts : Rule → String → Bool) (hr : rules'.Perm rules) (he : entities'.Perm entities) :
    (breaches accepts rules' entities').Perm (breaches accepts rules entities) :=
  ((he.product hr).filter _).map _

/-- The order tells the breaches of a document apart, as each rule has its own id. -/
theorem eq_of_sortKey_eq {snapshots : List Snapshot} (hids : (rules.map (·.id)).Nodup) {v w : Violation}
    (hv : v ∈ breaches accepts rules (entitiesIn snapshots)) (hw : w ∈ breaches accepts rules (entitiesIn snapshots))
    (h : v.sortKey = w.sortKey) : v = w := by
  obtain ⟨e, he, r, hr, -, rfl⟩ := mem_breaches.1 hv
  obtain ⟨e', he', r', hr', -, rfl⟩ := mem_breaches.1 hw
  simp only [Violation.sortKey, EmbeddingLike.apply_eq_iff_eq, Prod.mk.injEq] at h
  obtain ⟨hkind, hname, hscope, -, -, -, hid⟩ := h
  obtain rfl := List.inj_on_of_nodup_map hids hr hr' hid
  obtain rfl := entity_eq he he' (code_injective hkind) hname hscope
  rfl

theorem validateWith_perm {snapshots : List Snapshot} (tags : List Tag) (hids : (rules.map (·.id)).Nodup)
    (hr : rules'.Perm rules) (he : entities'.Perm (entitiesIn snapshots)) :
    validateWith accepts rules' entities' tags = validateWith accepts rules (entitiesIn snapshots) tags := by
  have hp := breaches_perm accepts hr he
  have hkey : ∀ v ∈ breaches accepts rules' entities', ∀ w ∈ breaches accepts rules' entities',
      v.sortKey = w.sortKey → v = w := fun v hv w hw =>
    eq_of_sortKey_eq hids (hp.mem_iff.1 hv) (hp.mem_iff.1 hw)
  have hviolations : (validateWith accepts rules' entities' tags).violations =
      (validateWith accepts rules (entitiesIn snapshots) tags).violations :=
    ((isStableSort_violations accepts rules' entities' tags).of_perm hp hkey).unique
      (isStableSort_violations accepts rules (entitiesIn snapshots) tags)
  have hreports' := reports_validateWith accepts rules' entities' tags
  have hreports := reports_validateWith accepts rules (entitiesIn snapshots) tags
  have hchecked : (validateWith accepts rules' entities' tags).namesChecked =
      (validateWith accepts rules (entitiesIn snapshots) tags).namesChecked := by
    rw [hreports'.namesChecked, hreports.namesChecked, he.countP_eq]
    simp only [hr.mem_iff]
  have happlied : (validateWith accepts rules' entities' tags).rulesApplied =
      (validateWith accepts rules (entitiesIn snapshots) tags).rulesApplied := by
    rw [hreports'.rulesApplied, hreports.rulesApplied, hr.countP_eq]
  rw [validateWith, validateWith, Validation.mk.injEq]
  exact ⟨hviolations, rfl, hchecked, happlied⟩

/-- A validation reports the breaches and nothing else, whatever is given to it; with distinct ids of rules the names
of some snapshots may be given in any order, and so may the rules. -/
theorem validateWith_exact (accepts : Rule → String → Bool) (rules : List Rule) (entities : List Entity)
    (tags : List Tag) :
    (validateWith accepts rules entities tags).Reports accepts rules entities ∧
      ((rules.map (·.id)).Nodup → ∀ (snapshots : List Snapshot) (rules' : List Rule) (entities' : List Entity),
        rules'.Perm rules → entities'.Perm (entitiesIn snapshots) →
          validateWith accepts rules' entities' tags = validateWith accepts rules (entitiesIn snapshots) tags) :=
  ⟨reports_validateWith accepts rules entities tags, fun hids _ _ _ => validateWith_perm tags hids⟩

def valveRules : List Rule := [
  { id := "r1", name := .text "Letters", pattern := "^[A-Z]", targets := [.all], shape := .anchor .textStart },
  { id := "r2", name := .text "Prefix", pattern := "^V", targets := [.controller], severity := .error
    shape := .anchor .textStart }]

def valveSnapshots : List Snapshot := [
  { fileId := "f1", versionId := "v1"
    document := {
      kind := .l5k
      tags := [{ name := "Open", dataType := "BOOL" }, { name := "shut", dataType := "BOOL" }] } }]

def isOpen (_ : Rule) (name : String) : Bool := name = "Open"

/-- Two rules are broken by one tag; rules and tags are given the other way round. -/
theorem validateWith_exact_valve :
    (valveRules.map (·.id)).Nodup ∧ (breaches isOpen valveRules (entitiesIn valveSnapshots)).length = 2 ∧
      validateWith isOpen valveRules.reverse (entitiesIn valveSnapshots).reverse [] =
        validateWith isOpen valveRules (entitiesIn valveSnapshots) [] := by
  have hids : (valveRules.map (·.id)).Nodup := by decide
  exact ⟨hids, by decide, (validateWith_exact isOpen valveRules [] []).2 hids valveSnapshots _ _ (List.reverse_perm _)
    (List.reverse_perm _)⟩

end LadderAtlas.Naming
