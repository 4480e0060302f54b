import LadderAtlas.Config
import LadderAtlas.Pattern.Reader
import LadderAtlas.Pattern.Search

/-! # Naming rules

A rule says which names of some kinds of things are well formed: those in which its pattern occurs.
Its pattern is read when the rule is made, so a rule that exists can be applied. Rules are made from
loosely typed drafts. -/

namespace LadderAtlas

/-- The kinds of things that have names. -/
inductive EntityKind where
  | tag
  | routine
  | program
  | udt
  | aoi
  | module
  | task
deriving Repr, DecidableEq

namespace EntityKind

def all : List EntityKind := [.tag, .routine, .program, .udt, .aoi, .module, .task]

/-- The name of the kind in rules and reports. -/
def code : EntityKind → String
  | .tag => "tag"
  | .routine => "routine"
  | .program => "program_name"
  | .udt => "udt"
  | .aoi => "aoi"
  | .module => "module"
  | .task => "task"

/-- The word for the kind in messages. -/
def label : EntityKind → String
  | .tag => "Tag"
  | .routine => "Routine"
  | .program => "Program"
  | .udt => "UDT"
  | .aoi => "AOI"
  | .module => "Module"
  | .task => "Task"

end EntityKind

namespace Naming

inductive Severity where
  | error
  | warning
  | info
deriving Repr, DecidableEq

namespace Severity

def all : List Severity := [.error, .warning, .info]

def name : Severity → String
  | .error => "error"
  | .warning => "warning"
  | .info => "info"

def ofName? (s : String) : Option Severity := all.find? (·.name = s)

/-- Whether violations of this severity lower the health score. -/
def isPenalized (s : Severity) : Bool := s ≠ .info

end Severity

/-- What a rule applies to. -/
inductive Target where
  | all
  /-- Tags of the controller. -/
  | controller
  /-- Tags of programs. -/
  | program
  | kind (k : EntityKind)
deriving Repr, DecidableEq

namespace Target

def options : List Target := [.all, .controller, .program] ++ EntityKind.all.map .kind

def name : Target → String
  | .all => "all"
  | .controller => "controller"
  | .program => "program"
  | .kind k => k.code

def ofName? (s : String) : Option Target := options.find? (·.name = s)

/-- The names of all targets in order. -/
def names : List String := sortedDistinct textLe (options.map name)

/-- Whether the target covers a thing of a kind, in a scope if it has one. -/
def covers (t : Target) (k : EntityKind) (scope : Option String) : Bool :=
  match t with
  | .all => true
  | .kind k' => k' = k
  | .controller => k = .tag && scope.any fun s => (scopeProgram s).isNone
  | .program => k = .tag && scope.any fun s => (scopeProgram s).isSome

end Target

structure Rule where
  id : String
  name : Value
  pattern : String
  targets : List Target
  severity : Severity := .warning
  isActive : Bool := true
  description : Value := .null
  /-- What `pattern` stands for. -/
  shape : Pattern
deriving Repr

/-- The fields of a rule before they are checked. -/
structure Draft where
  id : Value
  name : Value
  pattern : Value
  appliesTo : Value := .text "all"
  severity : Value := .null
  isActive : Value := .bool true
  description : Value := .null

namespace Draft

/-- The names of the targets, in lower case; empty ones are dropped. -/
def targetNames (v : Value) : Except Failure (List String) :=
  let clean (l : List (List Char)) : List String :=
    ((l.map Text.trim).filter (· ≠ [])).map fun s => String.ofList (Text.lower s)
  match v with
  | .scalar (.text s) => .ok (clean (Text.splitOn (· = ',') s.toList))
  | v =>
    match v.items? with
    | some l => .ok (clean (l.map fun w => w.shown.toList))
    | none => .error (.fault .wrongKind)

def targets (v : Value) : Except Failure (List Target) := do
  let names ← targetNames v
  if names.isEmpty then throw (.rule .noTarget)
  let unknown := names.filter fun n => (Target.ofName? n).isNone
  if !unknown.isEmpty then throw (.rule (.unknownTargets unknown Target.names))
  return names.filterMap Target.ofName?

def severityOf (v : Value) : Except Failure Severity :=
  if !v.truthy then .ok .warning
  else match v.text? with
    | none => .error (.fault .noProperty)
    | some s =>
      let word := Text.lowered s
      match Severity.ofName? word with
      | some severity => .ok severity
      | none => .error (.rule (.unknownSeverity (.text word)))

/-- The failure that a faulty pattern is. -/
def patternFailure : Pattern.Fault → Failure
  | .malformed => .rule .badPattern
  | .tooManyRepetitions => .fault .overflow
  | .tooManyDigits | .conflictingOptions => .fault .badValue

/-- Checks the fields and reads the pattern. -/
def toRule [Text.CharacterNames] (d : Draft) : Except Failure Rule := do
  if !d.name.truthy || !d.pattern.truthy then throw (.rule .incomplete)
  let some pattern := d.pattern.text? | throw (.fault .wrongKind)
  let shape ← (Pattern.ofText [] pattern).mapError patternFailure
  let severity ← severityOf d.severity
  let targets ← targets d.appliesTo
  return {
    id := d.id.shown
    name := d.name
    pattern
    targets
    severity
    isActive := d.isActive.truthy
    description := d.description
    shape }

/-- The fields of a map; the name of a rule also serves as its id. -/
def ofEntries (m : List (Scalar × Value)) : Draft :=
  let get (key : String) : Value := (Value.find? m key).getD .null
  { id := (get "id").orElse (get "name")
    name := get "name"
    pattern := get "pattern"
    appliesTo := (Value.find? m "applies_to").getD (.text "all")
    severity := get "severity"
    isActive := (Value.find? m "is_active").getD (.bool true)
    description := get "description" }

/-- Sets one field by its name. -/
def set (d : Draft) (key : Scalar) (v : Value) : Except Failure Draft :=
  match key with
  | .text "id" => .ok { d with id := v }
  | .text "name" => .ok { d with name := v }
  | .text "pattern" => .ok { d with pattern := v }
  | .text "applies_to" => .ok { d with appliesTo := v }
  | .text "severity" => .ok { d with severity := v }
  | .text "is_active" => .ok { d with isActive := v }
  | .text "description" => .ok { d with description := v }
  | _ => .error (.fault .wrongKind)

end Draft

namespace Rule

def ofValue [Text.CharacterNames] : Value → Except Failure Rule
  | .map m => (Draft.ofEntries m).toRule
  | _ => .error (.fault .noProperty)

def targetNames (r : Rule) : List String := r.targets.map (·.name)

/-- The draft that the rule could be made from. -/
def draft (r : Rule) : Draft where
  id := .text r.id
  name := r.name
  pattern := .text r.pattern
  appliesTo := .texts r.targetNames
  severity := .text r.severity.name
  isActive := .bool r.isActive
  description := r.description

/-- The rule with some fields changed, checked as a new one is. -/
def update [Text.CharacterNames] (r : Rule) (changes : List (Scalar × Value)) : Except Failure Rule := do
  (← changes.foldlM (fun d (k, v) => d.set k v) r.draft).toRule

def applies (r : Rule) (k : EntityKind) (scope : Option String) : Bool :=
  r.targets.any (·.covers k scope)

/-- Whether a name is well formed. -/
def accepts (r : Rule) (name : String) : Bool := r.shape.occursIn name

def plain (r : Rule) : Value := .record [
  ("id", .text r.id),
  ("name", r.name),
  ("description", r.description),
  ("pattern", .text r.pattern),
  ("applies_to", .texts r.targetNames),
  ("severity", .text r.severity.name),
  ("is_active", .bool r.isActive)]

end Rule

end Naming

end LadderAtlas
