import LadderAtlas.Document.Plain
import LadderAtlas.Value.Json

/-! # Snapshots as data

A snapshot is exported as a map of its identity and of the components that are asked for. -/

namespace LadderAtlas.Export

inductive Component where
  | metadata
  | tags
  | udts
  | aois
  | routines
  | rungs
  | modules
  | tasks
  | references
deriving Repr, DecidableEq

namespace Component

def all : List Component := [.metadata, .tags, .udts, .aois, .routines, .rungs, .modules, .tasks, .references]

def name : Component → String
  | .metadata => "metadata"
  | .tags => "tags"
  | .udts => "udts"
  | .aois => "aois"
  | .routines => "routines"
  | .rungs => "rungs"
  | .modules => "modules"
  | .tasks => "tasks"
  | .references => "references"

def ofName? (s : String) : Option Component := all.find? (·.name = s)

/-- The component of a snapshot. -/
def plain (s : Snapshot) : Component → Value
  | .metadata => s.document.metadata.plain
  | .tags => .list (s.document.tags.map Tag.plain)
  | .udts => .list (s.document.udts.map Udt.plain)
  | .aois => .list (s.document.aois.map Aoi.plain)
  | .routines => .list (s.document.routines.map Routine.plain)
  | .rungs => .list (s.document.rungs.map Rung.plain)
  | .modules => .list (s.document.modules.map IoModule.plain)
  | .tasks => .list (s.document.tasks.map Task.plain)
  | .references => .list (s.references.map TagReference.plain)

/-- The components with given names, in that order; unknown names are passed over. -/
def named (names : Option (List String)) : List Component :=
  match names with
  | none => all
  | some l => firstSeen (l.filterMap ofName?)

end Component

/-- The fields of a snapshot: its identity, then the components that are asked for. -/
def snapshotFields (s : Snapshot) (names : Option (List String)) : List (String × Value) :=
  [("fileId", .text s.fileId),
    ("versionId", .text s.versionId),
    ("versionNumber", .whole s.versionNumber),
    ("fileName", .optText s.fileName),
    ("kind", .text s.document.kind.name),
    ("sectionsPresent", .texts s.document.sectionNames)] ++
  (Component.named names).map fun c => (c.name, c.plain s)

def snapshotPlain (s : Snapshot) (names : Option (List String)) : Value := .record (snapshotFields s names)

/-- The snapshot with the time of its export. -/
def snapshotExport (now : String) (s : Snapshot) (names : Option (List String)) : Value :=
  .record (snapshotFields s names ++ [("exportTime", .text now)])

end LadderAtlas.Export
