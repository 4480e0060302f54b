import LadderAtlas.Document.Plain
import LadderAtlas.Failure
import LadderAtlas.Keyed
import LadderAtlas.Page
import LadderAtlas.Usage.Unused

/-! # The cross-reference

Where tags are used. References are found by parts of tag names, by use and by program, and are listed
by tag, program, routine and rung. -/

namespace LadderAtlas

/-- The references of several snapshots in order. -/
def allReferences (snapshots : List Snapshot) : List TagReference := snapshots.flatMap (·.references)

/-- Which references are asked for. The word `all` asks for all programs. -/
structure ReferenceFilter where
  search : Option String := none
  usage : Option Usage := none
  program : Option String := none

namespace ReferenceFilter

/-- The use that a word asks for; the empty word and `all` ask for every one. -/
def usageOf (word : Option String) : Except Failure (Option Usage) :=
  match criterion? word with
  | none => .ok none
  | some w =>
    match Usage.ofName? w with
    | some u => .ok (some u)
    | none => .error (.fault .badValue)

def admits (f : ReferenceFilter) (r : TagReference) : Bool :=
  (f.search.getD "" = "" || occursIn (f.search.getD "") r.tagName) &&
    f.usage.all (· = r.usage) && (criterion? f.program).all (· = r.programName)

/-- The references that are asked for, in order. -/
def apply (f : ReferenceFilter) (l : List TagReference) : List TagReference :=
  (l.filter f.admits).mergeSort TagReference.le

end ReferenceFilter

/-- A reference as a row of a listing. -/
def TagReference.row (r : TagReference) : Value := .record [
  ("tagName", .text r.tagName),
  ("programName", .text r.programName),
  ("routineName", .text r.routineName),
  ("rungNumber", .whole r.rungNumber),
  ("usageType", .text r.usage.name),
  ("instruction", .text r.instruction),
  ("fileId", .optText r.fileId),
  ("versionId", .optText r.versionId)]

/-- One page of the references that are asked for. -/
def referencePage (snapshots : List Snapshot) (f : ReferenceFilter) (number size : Int) : Page TagReference :=
  .of (f.apply (allReferences snapshots)) number size

def referencePagePlain (p : Page TagReference) : Value := .record [
  ("references", .list (p.items.map TagReference.row)),
  ("totalCount", .count p.total),
  ("page", .whole p.number),
  ("pageSize", .whole p.size)]

/-- The references to a tag; with `withMembers` also those to parts of it. -/
def referencesTo (references : List TagReference) (tag : String) (withMembers : Bool) : List TagReference :=
  references.filter fun r => r.tagName = tag || (withMembers && (pathPrefixes r.tagName).contains tag)

/-- The routines that read and those that write a tag, in order. -/
structure TagUsage where
  tag : String
  readers : List String
  writers : List String
deriving Repr, DecidableEq

namespace TagUsage

def ofReferences (references : List TagReference) (tag : String) : TagUsage :=
  let own := referencesTo references tag false
  let places (p : Usage → Bool) : List String :=
    sortedDistinct textLe ((own.filter (p ·.usage)).map (·.location))
  ⟨tag, places Usage.reads, places Usage.writes⟩

def plain (u : TagUsage) : Value := .record [
  ("tagName", .text u.tag),
  ("readers", .texts u.readers),
  ("writers", .texts u.writers)]

end TagUsage

/-- The tags that are used, each with the routines and the ways in which it is, in order. -/
def usageSummary (references : List TagReference) : List (String × List String × List String) :=
  let groups := (Keyed.groups (·.tagName) references).mergeSort fun a b => textLe a.1 b.1
  groups.map fun (tag, l) =>
    (tag, sortedDistinct textLe (l.map (·.location)), sortedDistinct textLe (l.map (·.usage.name)))

end LadderAtlas
