import LadderAtlas.Query.CrossReference
import LadderAtlas.Query.ModuleTree
import LadderAtlas.Query.TagSearch

/-! # Statistics of snapshots -/

namespace LadderAtlas

/-- How often each text occurs, in the order of the texts. -/
def counts (l : List String) : List (String × Nat) :=
  (Keyed.groups id l).map (fun (k, found) => (k, found.length)) |>.mergeSort fun a b => textLe a.1 b.1

def countsPlain (l : List String) : Value := .record ((counts l).map fun (k, n) => (k, .count n))

def statistics (snapshots : List Snapshot) : Value :=
  let tags := allTags snapshots
  let references := allReferences snapshots
  .record [
    ("tags", .record [
      ("total", .count tags.length),
      ("by_scope", countsPlain (tags.map (·.scope))),
      ("by_type", countsPlain (tags.map (·.dataType)))]),
    ("references", .record [
      ("total", .count references.length),
      ("distinct_tags", .count (firstSeen (references.map (·.tagName))).length),
      ("by_usage", countsPlain (references.map (·.usage.name)))]),
    ("routines", .count (routineIndex snapshots).length),
    ("modules", .count (ModuleIndex.ofSnapshots snapshots).length)]

end LadderAtlas
