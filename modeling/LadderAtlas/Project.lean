import LadderAtlas.Config
import LadderAtlas.ExportTypes
import LadderAtlas.Health.Report
import LadderAtlas.Naming.Validation
import LadderAtlas.Page
import LadderAtlas.Query.CrossReference
import LadderAtlas.Query.TagSearch

/-! # Projects

A project is the current snapshots of its files. Tags, rungs and references are pooled: a tag that one
export declares is used if a rung of any of them refers to it. -/

namespace LadderAtlas

structure Project where
  snapshots : List Snapshot
  options : HealthOptions := {}

/-- How many rungs there are, and how many of them have a comment. -/
structure Coverage where
  total : Nat
  commented : Nat
deriving Repr, DecidableEq

namespace Coverage

def ofRungs (l : List Rung) : Coverage := ⟨l.length, l.countP (·.hasComment)⟩

/-- The whole percentage of rungs with a comment, if there are rungs. -/
def percent (c : Coverage) : Option Int :=
  (Health.Stats.coverage c.commented c.total : Health.Metric Float).value?.map Health.roundFloat

def fields (c : Coverage) : List (String × Value) := [
  ("totalRungs", .count c.total),
  ("commentedRungs", .count c.commented),
  ("coveragePercent", .optWhole c.percent)]

end Coverage

/-- The coverage of all rungs, of each program and of each routine of a program. -/
structure CoverageReport where
  summary : Coverage
  programs : List (String × Coverage)
  routines : List ((String × String) × Coverage)
deriving Repr

namespace CoverageReport

/-- The coverage of the rungs with each key, in the order of the keys. -/
def rows {κ : Type} [DecidableEq κ] (key : Rung → κ) (le : κ → κ → Bool) (rungs : List Rung) :
    List (κ × Coverage) :=
  ((Keyed.groups key rungs).map fun (k, l) => (k, Coverage.ofRungs l)).mergeSort fun a b => le a.1 b.1

def ofRungs (rungs : List Rung) : CoverageReport where
  summary := .ofRungs rungs
  programs := rows (·.programName) textLe rungs
  routines := rows (fun r => (r.programName, r.routineName)) (pairLe textLe textLe) rungs

def plain (r : CoverageReport) : Value := .record [
  ("summary", .record r.summary.fields),
  ("byProgram", .list (r.programs.map fun (name, c) => .record (("name", .text name) :: c.fields))),
  ("byRoutine", .list (r.routines.map fun ((program, routine), c) =>
    .record ([("programName", .text program), ("routineName", .text routine)] ++ c.fields)))]

end CoverageReport

namespace Project

def tags (p : Project) : List Tag := allTags p.snapshots

def rungs (p : Project) : List Rung := p.snapshots.flatMap (·.document.rungs)

def references (p : Project) : List TagReference := allReferences p.snapshots

/-- Whether any export has a section for tags. -/
def tagsAvailable (p : Project) : Bool := p.snapshots.any (·.document.hasSection .tags)

def unused (p : Project) : List Tag := unusedTags p.options.includeMemberReferences p.tags p.references

def unusedPage (p : Project) (f : TagFilter) (number size : Int) : Page Tag :=
  .of (f.apply p.unused) number size

def unusedPagePlain (page : Page Tag) : Value := .record [
  ("unusedTags", .list (page.items.map fun t => .record [
    ("name", .text t.name),
    ("dataType", .text t.dataType),
    ("scope", .text t.scope),
    ("description", .optText t.description)])),
  ("totalCount", .count page.total),
  ("page", .whole page.number),
  ("pageSize", .whole page.size)]

def coverage (p : Project) : CoverageReport := .ofRungs p.rungs

/-- The validation of all names by a rule set, if there is one. -/
def naming (p : Project) (ruleSet : Option Naming.RuleSet) : Option Naming.Validation :=
  ruleSet.map fun s => Naming.validateSnapshots s.rules p.snapshots

def exportTypes (p : Project) : ExportTypes := .ofMetadata (p.snapshots.map (·.document.metadata))

def stats (p : Project) (naming : Option Naming.Validation) : Health.Stats where
  totalTags := p.tags.length
  unusedTags := p.unused.length
  totalRungs := p.rungs.length
  commentedRungs := p.rungs.countP (·.hasComment)
  totalReferences := p.references.length
  tagsAvailable := p.tagsAvailable
  namesChecked := (naming.map (·.namesChecked)).getD 0
  namingViolations := (naming.map (·.penalized)).getD 0
  partialExport := p.exportTypes.hasPartials

/-- The health of the project. Naming counts if it is turned on and a rule set applies. -/
def health (p : Project) (ruleSet : Option Naming.RuleSet) : Health.Report :=
  let naming := if p.options.namingEnabled then p.naming ruleSet else none
  .ofStats (p.stats naming) naming.isSome

end Project

end LadderAtlas
