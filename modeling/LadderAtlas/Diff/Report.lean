import LadderAtlas.Diff.Parts
import LadderAtlas.Document.Plain

/-! # Comparing documents

The changes between two documents: of tags, routines and modules, which make up the total, and of the
definitions and tasks beside them. -/

namespace LadderAtlas.Diff

def optText (s : Option String) : String := s.getD ""

def optWhole (n : Option Int) : String := (n.map Number.wholeText).getD ""

def compareTags : List Tag → List Tag → Changes Tag :=
  .between (·.name) textLe fun a b =>
    deltaOf "Data type" id a.dataType b.dataType ++
    deltaOf "Scope" id a.scope b.scope ++
    changeOf "Description" a.description b.description

def compareRoutines : List Routine → List Routine → Changes Routine :=
  .between (fun r => (r.programName, r.name)) (pairLe textLe textLe) fun a b =>
    deltaOf "Type" id a.type b.type ++
    deltaOf "Rung count" optWhole a.rungCount b.rungCount ++
    changeOf "Description" a.description b.description

def compareModules : List IoModule → List IoModule → Changes IoModule :=
  .between (·.name) textLe fun a b =>
    deltaOf "Catalog" optText a.catalogNumber b.catalogNumber ++
    deltaOf "Parent" optText a.parentModule b.parentModule ++
    deltaOf "Slot" optWhole a.slot b.slot

def memberParts (u : Udt) : List (Part (Option Int)) := u.members.map fun m => ⟨m.name, m.dataType, m.dimension⟩

def compareUdts : List Udt → List Udt → Changes Udt :=
  .between (·.name) textLe fun a b =>
    changeOf "Description" a.description b.description ++
    partDeltas "Member" (memberParts a) (memberParts b)

def parameterParts (a : Aoi) : List (Part (String × Bool)) :=
  a.parameters.map fun p => ⟨p.name, p.dataType, p.usage, p.required⟩

def compareAois : List Aoi → List Aoi → Changes Aoi :=
  .between (·.name) textLe fun a b =>
    deltaOf "Revision" optText a.revision b.revision ++
    changeOf "Description" a.description b.description ++
    partDeltas "Parameter" (parameterParts a) (parameterParts b)

def compareTasks : List Task → List Task → Changes Task :=
  .between (·.name) textLe fun a b =>
    deltaOf "Type" id a.type b.type ++
    deltaOf "Rate" optWhole a.rate b.rate ++
    deltaOf "Priority" optWhole a.priority b.priority ++
    deltaOf "Watchdog" optWhole a.watchdog b.watchdog ++
    deltaOf "Inhibit" (fun i => (Scalar.bool i).shown) a.inhibitTask b.inhibitTask ++
    deltaOf "Programs" (", ".intercalate ·) a.scheduledPrograms b.scheduledPrograms

structure Report where
  tags : Changes Tag
  routines : Changes Routine
  modules : Changes IoModule
  udts : Changes Udt
  aois : Changes Aoi
  tasks : Changes Task

namespace Report

def compare (old new : Document) : Report where
  tags := compareTags old.tags new.tags
  routines := compareRoutines old.routines new.routines
  modules := compareModules old.modules new.modules
  udts := compareUdts old.udts new.udts
  aois := compareAois old.aois new.aois
  tasks := compareTasks old.tasks new.tasks

def totalChanges (r : Report) : Nat := r.tags.count + r.routines.count + r.modules.count

/-- The changes that the total leaves out. -/
def definitionChanges (r : Report) : Nat := r.udts.count + r.aois.count + r.tasks.count

def plain (r : Report) : Value := .record [
  ("tags", r.tags.plain fun t => [("name", .text t.name), ("data_type", .text t.dataType)]),
  ("routines", r.routines.plain fun t =>
    [("name", .text t.name), ("program_name", .text t.programName), ("type", .text t.type)]),
  ("modules", r.modules.plain fun m => [("name", .text m.name), ("catalog_number", .optText m.catalogNumber)]),
  ("udts", r.udts.plain fun u => [("name", .text u.name), ("member_count", .count u.members.length)]),
  ("aois", r.aois.plain fun a => [("name", .text a.name), ("revision", .optText a.revision)]),
  ("tasks", r.tasks.plain fun t => [("name", .text t.name), ("type", .text t.type)]),
  ("summary", .record [
    ("totalChanges", .count r.totalChanges),
    ("tagsChanged", .count r.tags.count),
    ("routinesChanged", .count r.routines.count),
    ("modulesChanged", .count r.modules.count),
    ("definitionChanges", .count r.definitionChanges)])]

end Report

end LadderAtlas.Diff
