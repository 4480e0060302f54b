import LadderAtlas.Keyed
import LadderAtlas.Naming.RuleSet

/-! # The registry of rule sets

Rule sets by their ids, and which of them is assigned to which project. Among the sets of one
organisation at most one is the default: the one that was added as such last. -/

namespace LadderAtlas.Naming

structure Registry where
  sets : List (String × RuleSet) := []
  /-- The ids of the sets that are assigned to projects. -/
  assignments : List (String × String) := []
deriving Repr

/-- Whether a set may govern the projects of an organisation. -/
def RuleSet.serves (s : RuleSet) (organization : Option String) : Bool :=
  match organization with
  | none => true
  | some o => s.organization.isNull || s.organization.same (.text o)

/-- The set that governs a project of an organisation: the one assigned to it, otherwise the first
default. -/
def resolveAmong (sets : List RuleSet) (assigned organization : Option String) :
    Noted (Option RuleSet) := do
  let candidates := sets.filter (·.serves organization)
  if let some id := assigned then
    if let some s := candidates.find? (·.id = id) then return some s
    Noted.note (.missingRuleSet id)
  return candidates.find? (·.isDefault)

namespace Registry

/-- The set, not the default of an organisation any more if it was. -/
def demote (organization : Value) (s : RuleSet) : RuleSet :=
  if s.organization.same organization then { s with isDefault := false } else s

/-- Adds a set, or replaces the one with its id. -/
def add (r : Registry) (s : RuleSet) : Registry :=
  let sets := if s.isDefault then r.sets.map fun (id, t) => (id, demote s.organization t) else r.sets
  { r with sets := Keyed.put sets s.id s }

def ofList (l : List RuleSet) : Registry := l.foldl add {}

/-- Assigns a set to a project; with none given, the project has no assignment any more. -/
def assign (r : Registry) (project : String) (setId : Option String) : Except Failure Registry :=
  match setId with
  | none => .ok { r with assignments := Keyed.erase r.assignments project }
  | some id =>
    if (Keyed.get? r.sets id).isNone then .error (.rule (.unknownSet id))
    else .ok { r with assignments := Keyed.put r.assignments project id }

/-- The set that governs a project of an organisation. -/
def resolve (r : Registry) (project organization : Option String) : Noted (Option RuleSet) :=
  let assigned := (project.filter (· ≠ "")).bind (Keyed.get? r.assignments)
  resolveAmong (r.sets.map (·.2)) assigned organization

end Registry

end LadderAtlas.Naming
