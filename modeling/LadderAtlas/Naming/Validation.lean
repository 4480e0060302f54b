import LadderAtlas.Naming.RuleSet
import LadderAtlas.Snapshot

/-! # Validation of names

Applies naming rules to all that has a name. Every active rule that applies to a thing and does not
accept its name gives one violation. Apart from the rules, tags that a program declares again under a
name of the controller are listed. -/

namespace LadderAtlas.Naming

/-- Something with a name; tags also have a scope. -/
structure Entity where
  kind : EntityKind
  name : String
  scope : Option String := none
deriving Repr, DecidableEq

/-- All that has a name in a document, once for each declaration. -/
def entitiesOf (d : Document) : List Entity :=
  d.tags.map (fun t => ⟨.tag, t.name, some t.scope⟩) ++
  d.routines.map (fun r => ⟨.routine, r.name, some r.programName⟩) ++
  d.programNames.map (fun p => ⟨.program, p, none⟩) ++
  d.udts.map (fun u => ⟨.udt, u.name, none⟩) ++
  d.aois.map (fun a => ⟨.aoi, a.name, none⟩) ++
  d.modules.map (fun m => ⟨.module, m.name, none⟩) ++
  d.tasks.map (fun t => ⟨.task, t.name, none⟩)

structure Violation where
  ruleId : String
  ruleName : Value
  severity : Severity
  entity : Entity
deriving Repr

namespace Violation

def of (e : Entity) (r : Rule) : Violation := ⟨r.id, r.name, r.severity, e⟩

def message (v : Violation) : String :=
  v.entity.kind.label ++ " \"" ++ v.entity.name ++ "\" does not match rule \"" ++ v.ruleName.shown ++ "\""

/-- What a number as a name is compared by: its value, between the two infinities. -/
def numberKey (x : Float) : Nat × Rat × String :=
  match Number.Dyadic.ofFloat? x with
  | some d => (1, d.toRat, "")
  | none => (if x < 0 then 0 else if 0 < x then 2 else 4, Rat.ofInt 0, "nan")

/-- What the name of a rule is compared by: a text by itself, a number by its value. Names of different kinds have no
order of their own; they are kept apart, and names of further kinds are compared as they are shown. -/
def nameKey (name : Value) : Nat × Rat × String :=
  match name with
  | .scalar (.text s) => (3, Rat.ofInt 0, s)
  | .scalar s =>
    match s.number? with
    | some (.inl n) => (1, Rat.ofInt n, "")
    | some (.inr x) => numberKey x
    | none => (4, Rat.ofInt 0, s.shown)
  | v => (4, Rat.ofInt 0, v.shown)

/-- The order of violations: by kind, name, scope, and the name and id of the rule. -/
def le (a b : Violation) : Bool :=
  let key (v : Violation) :=
    let (rank, number, text) := nameKey v.ruleName
    (v.entity.kind.code, v.entity.name, v.entity.scope.getD "", rank, number, text, v.ruleId)
  let nameLe := pairLe Nat.ble (pairLe (fun x y => !Rat.blt y x) (pairLe textLe textLe))
  pairLe textLe (pairLe textLe (pairLe textLe nameLe)) (key a) (key b)

def plain (v : Violation) : Value := .record [
  ("ruleId", .text v.ruleId),
  ("ruleName", v.ruleName),
  ("severity", .text v.severity.name),
  ("entityKind", .text v.entity.kind.code),
  ("entityName", .text v.entity.name),
  ("scope", .opt .text v.entity.scope),
  ("message", .text v.message)]

end Violation

/-- A tag name of the controller that programs declare again. -/
structure ScopeConflict where
  tagName : String
  programs : List String
deriving Repr, DecidableEq

/-- The conflicts among tags, by name. -/
def scopeConflicts (tags : List Tag) : List ScopeConflict :=
  let shared := (tags.filter (·.isControllerScoped)).map (·.name)
  let inProgram (name : String) : List String :=
    (tags.filter fun t => t.name = name && !t.isControllerScoped).filterMap (·.programName)
  (sortedDistinct textLe shared).filterMap fun name =>
    match sortedDistinct textLe (inProgram name) with
    | [] => none
    | programs => some ⟨name, programs⟩

structure Validation where
  violations : List Violation
  conflicts : List ScopeConflict
  namesChecked : Nat
  rulesApplied : Nat
deriving Repr

/-- The violations by one thing, given which rules accept which names. -/
def violationsBy (accepts : Rule → String → Bool) (rules : List Rule) (e : Entity) : List Violation :=
  (rules.filter fun r => r.applies e.kind e.scope && !accepts r e.name).map (.of e)

/-- Applies the active ones of some rules, given which rules accept which names. -/
def validateWith (accepts : Rule → String → Bool) (rules : List Rule) (entities : List Entity)
    (tags : List Tag) : Validation :=
  let active := rules.filter (·.isActive)
  { violations := (entities.flatMap (violationsBy accepts active)).mergeSort Violation.le
    conflicts := scopeConflicts tags
    namesChecked := entities.countP fun e => active.any (·.applies e.kind e.scope)
    rulesApplied := active.length }

def validate (rules : List Rule) (entities : List Entity) (tags : List Tag) : Validation :=
  validateWith Rule.accepts rules entities tags

/-- Validates the names in snapshots. -/
def validateSnapshots (rules : List Rule) (snapshots : List Snapshot) : Validation :=
  validate rules (snapshots.flatMap fun s => entitiesOf s.document) (snapshots.flatMap fun s => s.document.tags)

namespace Validation

def count (v : Validation) (s : Severity) : Nat := v.violations.countP (·.severity = s)

/-- The number of violations that lower the health score. -/
def penalized (v : Validation) : Nat := v.violations.countP (·.severity.isPenalized)

/-- The violations of a severity that is asked for; an empty word or `all` asks for every one. -/
def filtered (v : Validation) (severity : Option String) : List Violation :=
  match severity with
  | none | some "" | some "all" => v.violations
  | some s => v.violations.filter (·.severity.name = s)

def plain (v : Validation) (severity : Option String) : Value := .record [
  ("violations", .list ((v.filtered severity).map Violation.plain)),
  ("scopeConflicts", .list (v.conflicts.map fun c => .record [
    ("tagName", .text c.tagName),
    ("programs", .texts c.programs)])),
  ("summary", .record [
    ("errors", .count (v.count .error)),
    ("warnings", .count (v.count .warning)),
    ("info", .count (v.count .info)),
    ("total", .count v.violations.length),
    ("scopeConflicts", .count v.conflicts.length)]),
  ("namesChecked", .count v.namesChecked),
  ("rulesApplied", .count v.rulesApplied)]

end Validation

end LadderAtlas.Naming
