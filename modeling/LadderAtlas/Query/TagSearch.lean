import LadderAtlas.Naming.Rule
import LadderAtlas.Snapshot

/-! # Finding tags and routines

Tags by name, by the beginning of their name, by type, by scope and by pattern; routines by name and
program. Listings keep the order of declaration. -/

namespace LadderAtlas

/-- The tags of several snapshots in order. -/
def allTags (snapshots : List Snapshot) : List Tag := snapshots.flatMap (·.document.tags)

/-- The first tag with a name, in a scope if one is given. -/
def findTag? (tags : List Tag) (name : String) (scope : Option String) : Option Tag :=
  tags.find? fun t => t.name = name && scope.all (· = t.scope)

/-- The tags whose names begin with a text, without regard to case. -/
def tagsByPrefix (tags : List Tag) (lead : String) : List Tag :=
  tags.filter fun t => (Text.lower lead.toList).isPrefixOf (Text.lower t.name.toList)

/-- The failure that a faulty pattern is in a search. -/
def searchFailure : Pattern.Fault → Failure
  | .malformed => .fault .badPattern
  | .tooManyRepetitions => .fault .overflow
  | .tooManyDigits | .conflictingOptions => .fault .badValue

/-- The tags in whose names a pattern occurs. -/
def tagsByPattern [Text.CharacterNames] (tags : List Tag) (pattern : String) (caseSensitive : Bool) :
    Except Failure (List Tag) := do
  let options := if caseSensitive then [] else [.ignoreCase]
  let p ← (Pattern.ofText options pattern).mapError searchFailure
  return tags.filter fun t => p.occursIn t.name

/-- The routines of several snapshots; of those with the same program and name the first. -/
def routineIndex (snapshots : List Snapshot) : List ((String × String) × Routine) :=
  Keyed.firsts (fun r : Routine => (r.programName, r.name)) (snapshots.flatMap (·.document.routines))

/-- The first routine with a name, in a program if one is given. -/
def findRoutine? (snapshots : List Snapshot) (name : String) (program : Option String) : Option Routine :=
  ((routineIndex snapshots).find? fun p => p.1.2 = name && program.all (· = p.1.1)).map (·.2)

end LadderAtlas
