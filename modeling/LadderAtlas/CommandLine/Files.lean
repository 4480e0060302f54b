import LadderAtlas.Keyed
import LadderAtlas.Text.Trim

/-! # Files

What a command line sees of the disk: at a path there is a file, a folder or nothing. `FileTree` holds
files and folders in memory, under paths that are taken from its root. -/

namespace LadderAtlas.CommandLine

/-- What stands at a path. Of a folder the files count that are directly in it. -/
inductive Entry where
  | file (bytes : List UInt8)
  | folder (files : List (String × List UInt8))
deriving Repr

/-- What stands at each path. -/
abbrev Files := String → Option Entry

namespace Files

def bytes? (fs : Files) (path : String) : Option (List UInt8) :=
  match fs path with
  | some (.file bytes) => some bytes
  | _ => none

def inFolder? (fs : Files) (path : String) : Option (List (String × List UInt8)) :=
  match fs path with
  | some (.folder files) => some files
  | _ => none

def hasFile (fs : Files) (path : String) : Bool := (fs.bytes? path).isSome

def hasFolder (fs : Files) (path : String) : Bool := (fs.inFolder? path).isSome

end Files

/-- The parts of a path between its slashes. -/
def pathParts (path : String) : List String := (Text.splitOn (· = '/') path.toList).map String.ofList

/-- The parts of a path that are neither empty nor a single dot. -/
def properParts (path : String) : List String := (pathParts path).filter fun p => p ≠ "" && p ≠ "."

/-- The path of a file in a folder, without empty and single-dot parts. -/
def pathIn (folder name : String) : String :=
  (if folder.startsWith "/" then "/" else "") ++ "/".intercalate (properParts folder ++ [name])

/-- A file that is to be written. With `makesFolders` the folders on its path are made first. -/
structure NewFile where
  path : String
  text : String
  makesFolders : Bool
deriving Repr, DecidableEq

/-- Files, and folders beside those that the files are in, by the parts of their paths. -/
structure FileTree where
  files : List (List String × List UInt8) := []
  folders : List (List String) := []
deriving Repr

namespace FileTree

/-- The tree of files under plain paths. -/
def ofList (files : List (String × List UInt8)) (folders : List String) : FileTree :=
  ⟨Keyed.ofList (files.map fun (path, bytes) => (properParts path, bytes)), folders.map properParts⟩

def hasFolder (t : FileTree) (place : List String) : Bool :=
  place.isEmpty || t.folders.any place.isPrefixOf ||
    t.files.any fun f => place.isPrefixOf f.1 && place.length < f.1.length

def hasFile (t : FileTree) (place : List String) : Bool := (Keyed.get? t.files place).isSome

/-- The place that the parts of a path lead to from a place; none if there is nothing. -/
def walk (t : FileTree) (place : List String) : List String → Option (List String)
  | [] => some place
  | part :: rest =>
    if !t.hasFolder place then none
    else if part = "" || part = "." then walk t place rest
    else if part = ".." then if place.isEmpty then none else walk t place.dropLast rest
    else
      let next := place ++ [part]
      if t.hasFolder next || t.hasFile next then walk t next rest else none

/-- The files directly in a folder. -/
def inFolder (t : FileTree) (place : List String) : List (String × List UInt8) :=
  t.files.filterMap fun (path, bytes) =>
    match path.getLast? with
    | some name => if path.dropLast = place then some (name, bytes) else none
    | none => none

/-- What stands at a path. Nothing does at the empty one and at those that begin with a slash. -/
def view (t : FileTree) : Files := fun path =>
  if path = "" || path.startsWith "/" then none
  else (t.walk [] (pathParts path)).map fun place =>
    match Keyed.get? t.files place with
    | some bytes => .file bytes
    | none => .folder (t.inFolder place)

/-- Makes the folders on a path from a place, and gives the place that they lead to. -/
def makeFolders (t : FileTree) (place : List String) : List String → Option (FileTree × List String)
  | [] => some (t, place)
  | part :: rest =>
    if part = ".." then if place.isEmpty then none else makeFolders t place.dropLast rest
    else
      let next := place ++ [part]
      if t.hasFile next then none
      else makeFolders { t with folders := t.folders ++ [next] } next rest

/-- The tree and the folder into which a file is to be written, and the name of the file. -/
def target? (t : FileTree) (f : NewFile) : Option (FileTree × List String × String) := do
  let parts := if f.makesFolders then properParts f.path else pathParts f.path
  let name ← parts.getLast?
  let (t, place) ← if f.makesFolders then t.makeFolders [] parts.dropLast
    else (t.walk [] parts.dropLast).map fun place => (t, place)
  return (t, place, name)

/-- Writes a file; none where that cannot be done. -/
def write? (t : FileTree) (f : NewFile) : Option FileTree := do
  if f.path = "" || f.path.startsWith "/" then none
  let (t, place, name) ← t.target? f
  let path := place ++ [name]
  if !t.hasFolder place || t.hasFolder path || ["", ".", ".."].contains name then none
  return { t with files := Keyed.put t.files path f.text.toUTF8.toList }

end FileTree

end LadderAtlas.CommandLine
