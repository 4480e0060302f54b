import LadderAtlas.Text.Case
import LadderAtlas.Text.Trim
import LadderAtlas.Unique
import LadderAtlas.Value

/-! # Documents

What an exported controller project holds: tags, data types, add-on instructions, programs with
their routines and ladder rungs, modules and tasks. Records name each other and hold no links, so a
document is plain data. -/

namespace LadderAtlas

/-- The two export formats. -/
inductive FileKind where
  | l5x
  | l5k
deriving Repr, DecidableEq

def FileKind.name : FileKind → String
  | .l5x => "l5x"
  | .l5k => "l5k"

/-- The sections that an export may lack. -/
inductive Section where
  | tags
  | dataTypes
  | aois
  | programs
  | modules
  | tasks
deriving Repr, DecidableEq

def Section.name : Section → String
  | .tags => "tags"
  | .dataTypes => "data_types"
  | .aois => "aois"
  | .programs => "programs"
  | .modules => "modules"
  | .tasks => "tasks"

def Section.all : List Section := [.tags, .dataTypes, .aois, .programs, .modules, .tasks]

/-- The scope of the tags that belong to the controller. -/
def controllerScope : String := "controller"

def programScopePrefix : String := "program:"

/-- The scope of the tags that belong to a program. -/
def programScope (program : String) : String := programScopePrefix ++ program

/-- What follows the prefix in a text that begins with it. -/
def afterPrefix? : (lead : List Char) → List Char → Option (List Char)
  | [], s => some s
  | c :: lead, d :: s => if c = d then afterPrefix? lead s else none
  | _ :: _, [] => none

/-- The program that a scope names; none for the scope of the controller. -/
def scopeProgram (scope : String) : Option String :=
  (afterPrefix? programScopePrefix.toList scope.toList).map String.ofList

/-- A named and typed memory location. -/
structure Tag where
  name : String
  dataType : String
  scope : String := controllerScope
  description : Option String := none
  usage : Option String := none
  value : Option String := none
  aliasFor : Option String := none
  radix : Option String := none
  externalAccess : Option String := none
  dimensions : Option String := none
  tagType : Option String := none
  constant : Bool := false
deriving Repr, DecidableEq

namespace Tag

def isControllerScoped (t : Tag) : Bool := t.scope = controllerScope

def programName (t : Tag) : Option String := scopeProgram t.scope

end Tag

structure Member where
  name : String
  dataType : String
  dimension : Option Int := none
  description : Option String := none
  radix : Option String := none
  externalAccess : Option String := none
deriving Repr, DecidableEq

/-- A user-defined type. The order of its members matters. -/
structure Udt where
  name : String
  description : Option String := none
  familyType : Option String := none
  members : List Member := []
deriving Repr, DecidableEq

structure Parameter where
  name : String
  dataType : String
  usage : String := "Input"
  required : Bool := false
  visible : Bool := true
  description : Option String := none
  externalAccess : Option String := none
  defaultValue : Option String := none
deriving Repr, DecidableEq

structure LocalTag where
  name : String
  dataType : String
  radix : Option String := none
  externalAccess : Option String := none
  description : Option String := none
deriving Repr, DecidableEq

/-- A routine in the body of an add-on instruction. -/
structure AoiRoutine where
  name : String
  type : String
  description : Option String := none
  rungCount : Option Int := none
deriving Repr, DecidableEq

/-- The definition of an add-on instruction. The order of its parameters matters. -/
structure Aoi where
  name : String
  revision : Option String := none
  vendor : Option String := none
  description : Option String := none
  parameters : List Parameter := []
  localTags : List LocalTag := []
  routines : List AoiRoutine := []
  executePrescan : Bool := false
  executePostscan : Bool := false
  executeEnableInFalse : Bool := false
  createdDate : Option String := none
  createdBy : Option String := none
  editedDate : Option String := none
  editedBy : Option String := none
deriving Repr, DecidableEq

/-- The parameters that a ladder call lists after the backing tag: the required ones and those that
are passed by reference, which always are. -/
def Aoi.callParameters (a : Aoi) : List Parameter :=
  a.parameters.filter fun p => p.required || p.usage = "InOut"

/-- The type of routines that are written in ladder logic. -/
def ladderType : String := "RLL"

structure Routine where
  name : String
  programName : String
  type : String
  description : Option String := none
  rungCount : Option Int := none
deriving Repr, DecidableEq

structure Rung where
  programName : String
  routineName : String
  number : Int
  logicText : String
  comment : Option String := none
deriving Repr, DecidableEq

/-- Whether a rung has a comment that is not blank. -/
def Rung.hasComment (r : Rung) : Bool := r.comment.any fun c => !(Text.trim c.toList).isEmpty

structure IoModule where
  name : String
  catalogNumber : Option String := none
  parentModule : Option String := none
  slot : Option Int := none
  /-- Settings whose form depends on the kind of module. -/
  connectionInfo : Value := .null
deriving Repr

structure Task where
  name : String
  type : String
  priority : Option Int := none
  rate : Option Int := none
  watchdog : Option Int := none
  inhibitTask : Bool := false
  disableUpdateOutputs : Bool := false
  scheduledPrograms : List String := []
  description : Option String := none
deriving Repr, DecidableEq

/-- The type of the task that runs whenever no other does. -/
def continuousType : String := "CONTINUOUS"

structure Metadata where
  projectName : Option String := none
  processorType : Option String := none
  softwareRevision : Option String := none
  targetType : Option String := none
  targetName : Option String := none
  exportDate : Option String := none
  schemaRevision : Option String := none
deriving Repr, DecidableEq

/-- What an export covers. -/
inductive ExportLevel where
  | controller
  | program
  | routine
deriving Repr, DecidableEq

/-- The level of an export. A missing or unknown target means the whole controller. -/
def Metadata.level (m : Metadata) : ExportLevel :=
  let target := Text.lowered (m.targetType.getD "")
  if target = "program" then .program
  else if target = "routine" then .routine
  else .controller

def Metadata.isPartial (m : Metadata) : Bool := m.level ≠ .controller

/-- What an export, or a part of one, contains. -/
structure Contents where
  tags : List Tag := []
  udts : List Udt := []
  aois : List Aoi := []
  routines : List Routine := []
  rungs : List Rung := []
  modules : List IoModule := []
  tasks : List Task := []
  sections : List Section := []
deriving Repr

namespace Contents

instance : Append Contents where
  append a b := {
    tags := a.tags ++ b.tags
    udts := a.udts ++ b.udts
    aois := a.aois ++ b.aois
    routines := a.routines ++ b.routines
    rungs := a.rungs ++ b.rungs
    modules := a.modules ++ b.modules
    tasks := a.tasks ++ b.tasks
    sections := a.sections ++ b.sections }

/-- The contents of several parts in order. -/
def join : List Contents → Contents
  | [] => {}
  | c :: l => c ++ join l

end Contents

/-- The content of one export. -/
structure Document extends Contents where
  kind : FileKind
  metadata : Metadata := {}
deriving Repr

namespace Document

def hasSection (d : Document) (s : Section) : Bool := d.sections.contains s

/-- The programs that routines or tags belong to, in order of appearance. -/
def programNames (d : Document) : List String :=
  firstSeen (d.routines.map (·.programName) ++ d.tags.filterMap (·.programName))

/-- The names of the sections that are there, in order. -/
def sectionNames (d : Document) : List String :=
  sortedDistinct textLe (d.sections.map Section.name)

end Document

end LadderAtlas
