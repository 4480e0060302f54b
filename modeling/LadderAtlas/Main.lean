import LadderAtlas.CommandLine.Run
import Std.Time.Format

/-! # The program

Gathers the files that the command line refers to, asks for the reply, and carries it out. -/

namespace LadderAtlas.CommandLine

/-- The exports directly in a folder; none if it is no folder. -/
def folderEntry (path : String) : IO (Option Entry) := do
  try
    let mut files := []
    for found in ← (← IO.FS.realPath path).readDir do
      if (Path.kind found.fileName).toOption.isSome then
        try files := (found.fileName, (← IO.FS.readBinFile found.path).toList) :: files
        catch _ => continue
    return some (.folder files)
  catch _ => return none

/-- What stands at a path. -/
def entryAt (path : String) : IO (Option Entry) := do
  if path = "" then return none
  if let some folder ← folderEntry path then return some folder
  try return some (.file (← IO.FS.readBinFile path).toList)
  catch _ => return none

/-- The time to the microsecond, without a fraction on a full second. -/
def timeText : IO String := do
  let shown := (← Std.Time.PlainDateTime.now).toLeanDateTimeString
  let time := shown.toList.take 26
  return String.ofList (if time.drop 19 = ".000000".toList then time.take 19 else time)

/-- The folder part of a path. -/
def folderOf (path : String) : String := "/".intercalate (pathParts path).dropLast

def write (f : NewFile) : IO Unit := do
  let folder := folderOf f.path
  if f.makesFolders && folder ≠ "" then IO.FS.createDirAll folder
  IO.FS.writeFile f.path f.text

end LadderAtlas.CommandLine

open LadderAtlas.CommandLine in
def main (words : List String) : IO UInt32 := do
  let found ← (pathsIn words).mapM fun path => return (path, ← entryAt path)
  let files : Files := fun path => (found.find? (·.1 = path)).bind (·.2)
  let reply := run (← timeText) files words
  let outcome ← match reply.file with
    | none => pure reply.outcome
    | some f => try write f; pure reply.outcome catch e => pure (.unwritten (toString e))
  outcome.messages.forM IO.eprintln
  IO.print outcome.printed
  return outcome.exitCode.toUInt32
