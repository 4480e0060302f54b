import LadderAtlas.Document

/-! # Snapshots

A snapshot is one version of a file: its document together with the references of its rungs to
tags. It never changes once made. -/

namespace LadderAtlas

/-- How a rung uses a tag. -/
inductive Usage where
  | read
  | write
  | readWrite
deriving Repr, DecidableEq

namespace Usage

def name : Usage → String
  | .read => "Read"
  | .write => "Write"
  | .readWrite => "Read/Write"

def all : List Usage := [.read, .write, .readWrite]

def ofName? (s : String) : Option Usage := all.find? (·.name = s)

def reads : Usage → Bool
  | .write => false
  | _ => true

def writes : Usage → Bool
  | .read => false
  | _ => true

end Usage

/-- One occurrence of a tag in a rung. -/
structure TagReference where
  tagName : String
  programName : String
  routineName : String
  rungNumber : Int
  usage : Usage
  instruction : String := ""
  fileId : Option String := none
  versionId : Option String := none
deriving Repr, DecidableEq

/-- The routine of a reference, as written in reports. -/
def TagReference.location (r : TagReference) : String := r.programName ++ "/" ++ r.routineName

/-- The order of references in listings: by tag, program, routine and rung. -/
def TagReference.le (a b : TagReference) : Bool :=
  pairLe textLe (pairLe textLe (pairLe textLe fun m n => decide (m ≤ n)))
    (a.tagName, a.programName, a.routineName, a.rungNumber)
    (b.tagName, b.programName, b.routineName, b.rungNumber)

structure Snapshot where
  fileId : String
  versionId : String
  document : Document
  references : List TagReference := []
  versionNumber : Int := 1
  fileName : Option String := none
  projectId : Option String := none
deriving Repr

end LadderAtlas
