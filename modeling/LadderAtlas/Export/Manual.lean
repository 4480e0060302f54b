import LadderAtlas.Health.Report
import LadderAtlas.Query.CrossReference
import LadderAtlas.Query.TagSearch

/-! # Project manuals

A project as a document in Markdown: a summary, then a section for each kind of thing that there is. -/

namespace LadderAtlas.Export

/-- The text of a cell of a table: bars are escaped and line feeds are blanks. -/
def tableCell (s : String) : String :=
  let escape (c : Char) : List Char := if c = '|' then ['\\', '|'] else if c = '\n' then [' '] else [c]
  if s = "" then "-" else String.ofList (s.toList.flatMap escape)

/-- A field of a cell; an absent one is a dash. -/
def optCell (s : Option String) : String := tableCell (s.getD "")

def optNumberCell (n : Option Int) : String := tableCell ((n.map Number.wholeText).getD "")

/-- The lines of a table. -/
def table (headers : List String) (rows : List (List String)) : List String :=
  ["| " ++ " | ".intercalate headers ++ " |", "|" ++ String.join (headers.map fun _ => "---|")] ++
    rows.map fun row => "| " ++ " | ".intercalate row ++ " |"

/-- A section with a table under its title. -/
def tableSection (title : String) (headers : List String) (rows : List (List String)) : List String :=
  ["## " ++ title, ""] ++ table headers rows ++ [""]

/-- A section that is there only if there is something to list. -/
def sectionOf {α : Type} (items : List α) (lines : List α → List String) : List String :=
  if items.isEmpty then [] else lines items

/-- A description as a paragraph of its own. -/
def paragraph (s : Option String) : List String :=
  match s.filter (· ≠ "") with
  | some s => [s, ""]
  | none => []

def metadataLines (snapshots : List Snapshot) : List String :=
  match snapshots with
  | [] => []
  | s :: _ =>
    let m := s.document.metadata
    ["- Processor: " ++ optCell m.processorType,
      "- Software revision: " ++ optCell m.softwareRevision,
      "- Export date: " ++ optCell m.exportDate]

def summarySection (snapshots : List Snapshot) : List String :=
  let count {α : Type} (items : Document → List α) : String :=
    Number.natText (snapshots.flatMap fun s => items s.document).length
  let programs := firstSeen (snapshots.flatMap fun s => s.document.routines.map (·.programName))
  tableSection "Executive Summary" ["Item", "Count"] [
    ["Programs", Number.natText programs.length],
    ["Routines", count (·.routines)],
    ["Tags", count (·.tags)],
    ["I/O modules", count (·.modules)],
    ["UDTs", count (·.udts)],
    ["AOIs", count (·.aois)],
    ["Tasks", count (·.tasks)],
    ["Rungs", count (·.rungs)]]

def taskSection (tasks : List Task) : List String :=
  tableSection "System Architecture" ["Task", "Type", "Rate (ms)", "Priority", "Watchdog (ms)", "Programs"]
    (tasks.map fun t => [tableCell t.name, tableCell t.type, optNumberCell t.rate, optNumberCell t.priority,
      optNumberCell t.watchdog, tableCell (", ".intercalate t.scheduledPrograms)])

def moduleSection (modules : List IoModule) : List String :=
  tableSection "I/O Configuration" ["Module", "Catalog Number", "Parent", "Slot"]
    (modules.map fun m =>
      [tableCell m.name, optCell m.catalogNumber, optCell m.parentModule, optNumberCell m.slot])

def routineSection (routines : List Routine) : List String :=
  let sorted := routines.mergeSort fun a b =>
    pairLe textLe textLe (a.programName, a.name) (b.programName, b.name)
  tableSection "Programs & Routines" ["Program", "Routine", "Type", "Rungs", "Description"]
    (sorted.map fun r =>
      [tableCell r.programName, tableCell r.name, tableCell r.type, optNumberCell r.rungCount,
        optCell r.description])

def tagSection (tags : List Tag) : List String :=
  let sorted := tags.mergeSort fun a b => pairLe textLe textLe (a.scope, a.name) (b.scope, b.name)
  tableSection "Tag Database" ["Name", "Data Type", "Scope", "Description"]
    (sorted.map fun t => [tableCell t.name, tableCell t.dataType, tableCell t.scope, optCell t.description])

def udtLines (u : Udt) : List String :=
  ["### " ++ u.name, ""] ++ paragraph u.description ++
    table ["Member", "Data Type", "Dimension", "Description"]
      (u.members.map fun m => [tableCell m.name, tableCell m.dataType, optNumberCell m.dimension,
        optCell m.description]) ++ [""]

def udtSection (udts : List Udt) : List String := ["## User-Defined Types", ""] ++ udts.flatMap udtLines

def aoiLines (a : Aoi) : List String :=
  ["### " ++ a.name ++ " (rev " ++ optCell a.revision ++ ")", ""] ++ paragraph a.description ++
    table ["Parameter", "Data Type", "Usage", "Required", "Description"]
      (a.parameters.map fun p => [tableCell p.name, tableCell p.dataType, tableCell p.usage,
        if p.required then "yes" else "no", optCell p.description]) ++ [""]

def aoiSection (aois : List Aoi) : List String := ["## Add-On Instructions", ""] ++ aois.flatMap aoiLines

def referenceSection (references : List TagReference) : List String :=
  tableSection "Cross-Reference Summary" ["Tag", "Used In", "Usage"]
    ((usageSummary references).map fun (tag, places, uses) =>
      [tableCell tag, tableCell (", ".intercalate places), tableCell ("/".intercalate uses)])

def healthSection (h : Health.Report) : List String :=
  let score (m : Health.Metric Float) : String := optNumberCell (Health.Report.rounded m)
  ["## Quality Metrics", ""] ++
    table ["Metric", "Score"] ([
      ["Overall", score h.overall],
      ["Tag efficiency", score h.tagEfficiency],
      ["Documentation", score h.documentation],
      ["Tag usage", score h.tagUsage]] ++ h.naming.toList.map fun m => ["Naming", score m]) ++
    (if h.isApproximate then ["", "_Scores are approximate: some exports are partial._"] else []) ++ [""]

/-- The manual of a project, made at a given time. -/
def manual (now title : String) (snapshots : List Snapshot) (health : Option Health.Report) : String :=
  let all {α : Type} (items : Document → List α) : List α := snapshots.flatMap fun s => items s.document
  "\n".intercalate <|
    ["# " ++ title, ""] ++ metadataLines snapshots ++ ["- Generated: " ++ now, ""] ++
    summarySection snapshots ++
    sectionOf (all (·.tasks)) taskSection ++
    sectionOf (all (·.modules)) moduleSection ++
    sectionOf (all (·.routines)) routineSection ++
    sectionOf (all (·.tags)) tagSection ++
    sectionOf (all (·.udts)) udtSection ++
    sectionOf (all (·.aois)) aoiSection ++
    sectionOf (allReferences snapshots) referenceSection ++
    sectionOf health.toList (·.flatMap healthSection)

end LadderAtlas.Export
