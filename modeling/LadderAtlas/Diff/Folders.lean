import LadderAtlas.Diff.Report
import LadderAtlas.Store

/-! # Comparing folders

The files of two folders are matched by name and compared pairwise; of files with the same name in a
folder the first counts. The rest is listed by the side on which it is. -/

namespace LadderAtlas.Diff

structure FilePair where
  fileName : String
  left : String
  right : String
  report : Report

inductive Side where
  | left
  | right
deriving Repr, DecidableEq

def Side.name : Side → String
  | .left => "left"
  | .right => "right"

/-- A file without a counterpart. -/
structure Unmatched where
  fileName : String
  fileId : String
  side : Side
deriving Repr, DecidableEq

structure FolderComparison where
  left : String
  right : String
  pairs : List FilePair
  unmatched : List Unmatched
  totalFiles : Nat

/-- Compares two versions of files, by their numbers or the current ones. -/
def compareFiles (s : Store) (left right : String) (number₁ number₂ : Value) : Except Failure Report := do
  let old ← s.snapshot left number₁
  let new ← s.snapshot right number₂
  return .compare old.document new.document

def compareVersions (s : Store) (left right : String) : Except Failure Report := do
  let old ← s.version left
  let new ← s.version right
  return .compare old.document new.document

/-- The ids of the files of a folder by their names. -/
def filesByName (s : Store) (folder : String) : List (String × String) :=
  (Keyed.firsts (·.fileName) (s.folderFiles folder)).map fun (name, f) => (name, f.id)

/-- The files of one side that the other side lacks, by name. -/
def unmatchedFiles (side : Side) (own other : List (String × String)) : List Unmatched :=
  let alone := own.filter fun p => !(Keyed.keys other).contains p.1
  (alone.mergeSort fun a b => textLe a.1 b.1).map fun (name, id) => ⟨name, id, side⟩

def compareFolders (s : Store) (left right : String) : Except Failure FolderComparison := do
  let lefts := filesByName s left
  let rights := filesByName s right
  let names := ((Keyed.keys lefts).filter (Keyed.keys rights).contains).mergeSort textLe
  let matched := names.filterMap fun name => do
    return (name, ← Keyed.get? lefts name, ← Keyed.get? rights name)
  let pairs ← matched.mapM fun (name, a, b) => do
    return (⟨name, a, b, ← compareFiles s a b .null .null⟩ : FilePair)
  return {
    left
    right
    pairs
    unmatched := unmatchedFiles .left lefts rights ++ unmatchedFiles .right rights lefts
    totalFiles := lefts.length + rights.length }

namespace FolderComparison

def filesWithChanges (c : FolderComparison) : Nat := c.pairs.countP (0 < ·.report.totalChanges)

def totalChanges (c : FolderComparison) : Nat := c.pairs.foldr (fun p n => p.report.totalChanges + n) 0

def plain (c : FolderComparison) : Value :=
  let ids (p : FilePair) : List (String × Value) :=
    [("fileName", .text p.fileName), ("file1Id", .text p.left), ("file2Id", .text p.right)]
  .record [
    ("type", .text "folder"),
    ("folder1", .text c.left),
    ("folder2", .text c.right),
    ("matchedPairs", .list (c.pairs.map fun p => .record (ids p))),
    ("comparisons", .list (c.pairs.map fun p => .record (ids p ++ [("result", p.report.plain)]))),
    ("unmatchedFiles", .list (c.unmatched.map fun u => .record [
      ("fileName", .text u.fileName),
      ("fileId", .text u.fileId),
      ("side", .text u.side.name)])),
    ("summary", .record [
      ("totalFiles", .count c.totalFiles),
      ("matchedFiles", .count c.pairs.length),
      ("unmatchedLeft", .count (c.unmatched.countP (·.side = .left))),
      ("unmatchedRight", .count (c.unmatched.countP (·.side = .right))),
      ("filesWithChanges", .count c.filesWithChanges),
      ("totalChanges", .count c.totalChanges)])]

end FolderComparison

end LadderAtlas.Diff
