import LadderAtlas.Export.Listing
import LadderAtlas.Proofs.Export.CsvReader
import LadderAtlas.Proofs.StableSort

/-!
# Listings that are read back

The listing of the tags has one row for each tag, and that of the types one row for each member, or one of its own
for a type without members. A reader of CSV gets these rows back if each field with a carriage return also has a comma,
a double quote or a line feed, and only then (`listings_read_iff`). A field with a carriage return alone is written
without quotes, and the rest of it is read as a record of its own (`readTable_returnTag`).
-/

namespace LadderAtlas.Export
open Csv

def tagHeader : List String :=
  ["Name", "Data Type", "Scope", "Description", "Usage", "Radix", "Alias For", "External Access", "Dimensions"]

/-- The fields of a tag in a listing; one that is absent is empty. -/
def tagCells (t : Tag) : List String :=
  [t.name, t.dataType, t.scope, t.description.getD "", t.usage.getD "", t.radix.getD "", t.aliasFor.getD "",
    t.externalAccess.getD "", t.dimensions.getD ""]

def udtHeader : List String :=
  ["UDT Name", "Family", "Description", "Member Name", "Member Type", "Dimension", "Member Description"]

/-- The fields of a type and of one of its members. -/
def memberCells (u : Udt) (m : Member) : List String :=
  [u.name, u.familyType.getD "", u.description.getD "", m.name, m.dataType, (m.dimension.map Number.wholeText).getD "",
    m.description.getD ""]

/-- The rows of a type: one for each member in order, or one that names no member. -/
def udtCells (u : Udt) : List (List String) :=
  if u.members = [] then [[u.name, u.familyType.getD "", u.description.getD "", "", "", "", ""]]
  else u.members.map (memberCells u)

theorem udtRows_eq (u : Udt) : udtRows u = udtCells u := by
  rw [udtRows, udtCells, partRows]
  cases h : u.members with
  | nil => rfl
  | cons m l => simp [memberCells, textCell, wholeCell]

theorem length_of_mem_udtCells {u : Udt} {row : List String} (h : row ∈ udtCells u) : row.length = 7 := by
  rw [udtCells] at h
  split at h
  · rw [List.mem_singleton.1 h]
    rfl
  · obtain ⟨m, -, rfl⟩ := List.mem_map.1 h
    rfl

theorem isStableSort_sortedTags (snapshots : List Snapshot) :
    IsStableSort Tag.sortKey (allTags snapshots) (sortedTags snapshots) :=
  isStableSort_mergeSort Tag.le_iff _

theorem readTable_tagListing_iff (snapshots : List Snapshot) :
    readTable (tagListing snapshots) = tagHeader :: (sortedTags snapshots).map tagCells ↔
      ∀ t ∈ sortedTags snapshots, ∀ s ∈ tagCells t, Legible s.toList := by
  have hwidth : ∀ row ∈ tagHeader :: (sortedTags snapshots).map tagCells, 2 ≤ row.length := by
    simp [tagHeader, tagCells]
  have hheader : ∀ s ∈ tagHeader, Legible s.toList := by decide
  refine (readTable_table_iff hwidth).trans ?_
  rw [List.forall_mem_cons, and_iff_right hheader, List.forall_mem_map]

/-- The types by name. -/
def sortedUdts (snapshots : List Snapshot) : List Udt :=
  (snapshots.flatMap (·.document.udts)).mergeSort fun a b => textLe a.name b.name

theorem isStableSort_sortedUdts (snapshots : List Snapshot) :
    IsStableSort (·.name) (snapshots.flatMap (·.document.udts)) (sortedUdts snapshots) :=
  isStableSort_mergeSort (fun a b => textLe_iff a.name b.name) _

theorem readTable_udtListing_iff (snapshots : List Snapshot) :
    readTable (udtListing snapshots) = udtHeader :: (sortedUdts snapshots).flatMap udtCells ↔
      ∀ u ∈ sortedUdts snapshots, ∀ row ∈ udtCells u, ∀ s ∈ row, Legible s.toList := by
  have hwidth : ∀ row ∈ udtHeader :: (sortedUdts snapshots).flatMap udtCells, 2 ≤ row.length := by
    refine List.forall_mem_cons.2 ⟨by decide, fun row hrow => ?_⟩
    obtain ⟨u, -, hu⟩ := List.mem_flatMap.1 hrow
    rw [length_of_mem_udtCells hu]
    decide
  have hheader : ∀ s ∈ udtHeader, Legible s.toList := by decide
  have hrows : udtListing snapshots = Csv.table udtHeader ((sortedUdts snapshots).flatMap udtCells) := by
    rw [udtListing, sortedUdts, funext udtRows_eq]
    rfl
  rw [hrows, readTable_table_iff hwidth, List.forall_mem_cons, and_iff_right hheader, List.forall_mem_flatMap]

/-- The listings of tags and of types are read back as one row for each tag, and as the rows of each type, if all of
their fields are legible, and only then. -/
theorem listings_read_iff (snapshots : List Snapshot) :
    (∃ tags, IsStableSort Tag.sortKey (snapshots.flatMap (·.document.tags)) tags ∧
      (readTable (tagListing snapshots) = tagHeader :: tags.map tagCells ↔
        ∀ t ∈ tags, ∀ s ∈ tagCells t, Legible s.toList)) ∧
    ∃ udts, IsStableSort (·.name) (snapshots.flatMap (·.document.udts)) udts ∧
      (readTable (udtListing snapshots) = udtHeader :: udts.flatMap udtCells ↔
        ∀ u ∈ udts, ∀ row ∈ udtCells u, ∀ s ∈ row, Legible s.toList) :=
  ⟨⟨_, isStableSort_sortedTags snapshots, readTable_tagListing_iff snapshots⟩,
    ⟨_, isStableSort_sortedUdts snapshots, readTable_udtListing_iff snapshots⟩⟩

def returnTag : Tag := { name := "A", dataType := "DINT", description := some "x\ry" }

def returnSnapshots : List Snapshot := [
  { fileId := "f1", versionId := "v1", document := { kind := .l5k, tags := [returnTag] } }]

theorem readTable_returnTag : sortedTags returnSnapshots = [returnTag] ∧
    readTable (tagListing returnSnapshots) ≠ [tagHeader, tagCells returnTag] := by
  have hsorted : sortedTags returnSnapshots = [returnTag] := List.mergeSort_singleton ..
  have hbad : ¬ Legible "x\ry".toList := by decide
  refine ⟨hsorted, fun hread => hbad ?_⟩
  have hall := readTable_tagListing_iff returnSnapshots
  rw [hsorted, List.map_singleton] at hall
  exact hall.1 hread returnTag (List.mem_singleton_self _) _ (by simp [tagCells, returnTag])

end LadderAtlas.Export
