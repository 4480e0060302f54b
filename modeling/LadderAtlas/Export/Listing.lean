import LadderAtlas.Export.Csv
import LadderAtlas.Query.CrossReference
import LadderAtlas.Query.TagSearch
import LadderAtlas.Value.Json

/-! # Listings

The tags, references, routines, types, add-on instructions and modules of snapshots as tables in CSV.
An absent field is an empty cell. -/

namespace LadderAtlas.Export

inductive Listing where
  | tags
  | references
  | routines
  | udts
  | aois
  | io
deriving Repr, DecidableEq

namespace Listing

def all : List Listing := [.tags, .references, .routines, .udts, .aois, .io]

def name : Listing → String
  | .tags => "tags"
  | .references => "references"
  | .routines => "routines"
  | .udts => "udts"
  | .aois => "aois"
  | .io => "io"

def ofName? (s : String) : Option Listing := all.find? (·.name = s)

end Listing

def textCell (s : Option String) : String := s.getD ""

def wholeCell (n : Option Int) : String := (n.map Number.wholeText).getD ""

def flagCell (b : Bool) : String := if b then "true" else "false"

def tagRow (t : Tag) : List String :=
  [t.name, t.dataType, t.scope, textCell t.description, textCell t.usage, textCell t.radix,
    textCell t.aliasFor, textCell t.externalAccess, textCell t.dimensions]

/-- The tags by name and scope. -/
def sortedTags (snapshots : List Snapshot) : List Tag :=
  (allTags snapshots).mergeSort fun a b => pairLe textLe textLe (a.name, a.scope) (b.name, b.scope)

def tagListing (snapshots : List Snapshot) : String :=
  Csv.table ["Name", "Data Type", "Scope", "Description", "Usage", "Radix", "Alias For", "External Access",
    "Dimensions"] ((sortedTags snapshots).map tagRow)

def referenceRow (r : TagReference) : List String :=
  [r.tagName, r.programName, r.routineName, Number.wholeText r.rungNumber, r.usage.name]

def referenceListing (snapshots : List Snapshot) : String :=
  Csv.table ["Tag Name", "Program", "Routine", "Rung", "Usage Type"]
    (((allReferences snapshots).mergeSort TagReference.le).map referenceRow)

/-- Items of all snapshots, each with the name of its file. -/
def withFiles {α : Type} (items : Document → List α) (snapshots : List Snapshot) : List (α × String) :=
  snapshots.flatMap fun s => (items s.document).map fun a => (a, textCell s.fileName)

def routineRow (r : Routine) (file : String) : List String :=
  [r.name, r.programName, r.type, textCell r.description, wholeCell r.rungCount, file]

def routineListing (snapshots : List Snapshot) : String :=
  let rows := (withFiles (·.routines) snapshots).mergeSort fun a b =>
    pairLe textLe textLe (a.1.programName, a.1.name) (b.1.programName, b.1.name)
  Csv.table ["Name", "Program", "Type", "Description", "Rung Count", "File"]
    (rows.map fun (r, file) => routineRow r file)

/-- A row for each part of a thing; a thing without parts has one row of its own. -/
def partRows (head : List String) (width : Nat) (parts : List (List String)) : List (List String) :=
  if parts.isEmpty then [head ++ List.replicate width ""] else parts.map (head ++ ·)

def udtRows (u : Udt) : List (List String) :=
  partRows [u.name, textCell u.familyType, textCell u.description] 4
    (u.members.map fun m => [m.name, m.dataType, wholeCell m.dimension, textCell m.description])

def udtListing (snapshots : List Snapshot) : String :=
  let udts := (snapshots.flatMap (·.document.udts)).mergeSort fun a b => textLe a.name b.name
  Csv.table ["UDT Name", "Family", "Description", "Member Name", "Member Type", "Dimension",
    "Member Description"] (udts.flatMap udtRows)

def aoiRows (a : Aoi) : List (List String) :=
  partRows [a.name, textCell a.revision, textCell a.vendor, textCell a.description, textCell a.createdBy,
      textCell a.editedBy] 6
    (a.parameters.map fun p =>
      [p.name, p.dataType, p.usage, flagCell p.required, flagCell p.visible, textCell p.description])

def aoiListing (snapshots : List Snapshot) : String :=
  let aois := (snapshots.flatMap (·.document.aois)).mergeSort fun a b => textLe a.name b.name
  Csv.table ["AOI Name", "Revision", "Vendor", "Description", "Created By", "Edited By", "Parameter Name",
    "Parameter Type", "Parameter Usage", "Required", "Visible", "Parameter Description"] (aois.flatMap aoiRows)

/-- The settings of a module as JSON; nothing if there are none. -/
def settingsCell (v : Value) : String := if v.truthy then Json.compact (Json.sorted v) else ""

def moduleRow (m : IoModule) (file : String) : List String :=
  [m.name, textCell m.catalogNumber, textCell m.parentModule, wholeCell m.slot, file,
    settingsCell m.connectionInfo]

def moduleListing (snapshots : List Snapshot) : String :=
  let rows := (withFiles (·.modules) snapshots).mergeSort fun a b => textLe a.1.name b.1.name
  Csv.table ["Name", "Catalog Number", "Parent Module", "Slot", "File", "Connection Info"]
    (rows.map fun (m, file) => moduleRow m file)

def Listing.csv (snapshots : List Snapshot) : Listing → String
  | .tags => tagListing snapshots
  | .references => referenceListing snapshots
  | .routines => routineListing snapshots
  | .udts => udtListing snapshots
  | .aois => aoiListing snapshots
  | .io => moduleListing snapshots

end LadderAtlas.Export
