import LadderAtlas.Document.Parse
import LadderAtlas.Ladder.Reference

/-! # The store of snapshots

Files are registered, then taken in any number of times. Each time a file is parsed successfully it
gets one more version; versions are only ever added, until the file is deleted with all of them. A
version is added in one step after the parse, so none is ever seen half made. -/

namespace LadderAtlas

inductive ParsingStatus where
  | pending
  | processing
  | completed
  | failed
deriving Repr, DecidableEq

def ParsingStatus.name : ParsingStatus → String
  | .pending => "pending"
  | .processing => "processing"
  | .completed => "completed"
  | .failed => "failed"

/-- A registered file, and how its last parse went. -/
structure FileRecord where
  id : String
  projectId : String
  fileName : String
  kind : FileKind
  folderId : Option String := none
  status : ParsingStatus := .pending
  currentVersion : Int := 0
  error : Option String := none
deriving Repr, DecidableEq

def FileRecord.isCompleted (f : FileRecord) : Bool := f.status = .completed

structure Store where
  files : List (String × FileRecord) := []
  /-- The versions of each file, the first one first. -/
  versions : List (String × List Snapshot) := []
  byVersionId : List (String × Snapshot) := []
  /-- How many ids have been given out. -/
  drawn : Nat := 0

namespace Store

/-- Gives out an id. -/
def freshId (s : Store) : String × Store :=
  ("uuid-" ++ Number.natText (s.drawn + 1), { s with drawn := s.drawn + 1 })

/-- Puts a record in the place of the one with its id; versions of that one stay. -/
def insertRecord (s : Store) (f : FileRecord) : Store :=
  { s with files := Keyed.put s.files f.id f, versions := Keyed.putNew s.versions f.id [] }

/-- The kind of a file: the declared one, or that of its name. -/
def kindOf (fileName : String) : Option String → Except Failure FileKind
  | some kind => FileKind.ofDeclared kind
  | none => Path.kind fileName

/-- The id of a new file: the given one unless it is empty, or a fresh one. -/
def idFor (s : Store) (fileId : Option String) : String × Store :=
  match fileId.filter (· ≠ "") with
  | some id => (id, s)
  | none => s.freshId

/-- Registers a file. -/
def register (s : Store) (projectId fileName : String) (kind folderId fileId : Option String) :
    Except Failure (FileRecord × Store) := do
  let kind ← kindOf fileName kind
  let (id, s) := s.idFor fileId
  let record : FileRecord := { id, projectId, fileName, kind, folderId }
  return (record, s.insertRecord record)

def file (s : Store) (id : String) : Except Failure FileRecord :=
  match Keyed.get? s.files id with
  | some f => .ok f
  | none => .error (.missing (.file id))

/-- The files, or those of one project. -/
def fileList (s : Store) (projectId : Option String) : List FileRecord :=
  (s.files.map (·.2)).filter fun f => projectId.all (· = f.projectId)

/-- Changes the record of a file if there is one. -/
def updateRecord (s : Store) (id : String) (f : FileRecord → FileRecord) : Store :=
  match Keyed.get? s.files id with
  | some record => { s with files := Keyed.put s.files id (f record) }
  | none => s

/-- Notes that a file is being parsed. -/
def start (s : Store) (id : String) : Except Failure (FileRecord × Store) := do
  let record ← s.file id
  return (record, s.updateRecord id fun f => { f with status := .processing, error := none })

/-- Notes that a parse has failed. -/
def finishFailure (s : Store) (id message : String) : Store :=
  s.updateRecord id fun f => { f with status := .failed, error := some message }

def versionsOf (s : Store) (id : String) : List Snapshot := (Keyed.get? s.versions id).getD []

/-- Adds a parsed document as the next version of a file; none if the file has been deleted. The
record is that from before the parse. -/
def finishSuccess (s : Store) (record : FileRecord) (versionId : String) (document : Document) :
    Option (Snapshot × Store) := do
  let current ← Keyed.get? s.files record.id
  let references := (Ladder.documentReferences ⟨some record.id, some versionId⟩ document).value
  let snapshot : Snapshot := {
    fileId := record.id
    versionId
    document
    references
    versionNumber := (s.versionsOf record.id).length + 1
    fileName := some record.fileName
    projectId := some record.projectId }
  let now := { current with status := .completed, currentVersion := snapshot.versionNumber, error := none }
  return (snapshot, { s with
    files := Keyed.put s.files record.id now
    versions := Keyed.alter s.versions record.id [] (· ++ [snapshot])
    byVersionId := Keyed.put s.byVersionId versionId snapshot })

/-- Parses a file and adds the document as a version. -/
def ingest (config : Config) (s : Store) (id : String) (bytes : List UInt8) :
    Except Failure Snapshot × Store :=
  match s.start id with
  | .error e => (.error e, s)
  | .ok (record, s) =>
    match (Document.parse config record.kind bytes).result with
    | .error e => (.error e, s.finishFailure id e.message)
    | .ok document =>
      let (versionId, s) := s.freshId
      match s.finishSuccess record versionId document with
      | some (snapshot, s) => (.ok snapshot, s)
      | none => (.error (.missing (.file id)), s)

/-- Registers a file and parses it. Without contents it only gets registered. -/
def addFile (config : Config) (s : Store) (projectId path : String) (bytes : Option (List UInt8))
    (folderId kind : Option String) : Except Failure Snapshot × Store :=
  match s.register projectId (Path.fileName path) kind folderId none with
  | .error e => (.error e, s)
  | .ok (record, s) =>
    match bytes with
    | none => (.error (.fault .missingFile), s)
    | some bytes => s.ingest config record.id bytes

/-- A version of a file by its number, or its current one. -/
def snapshot (s : Store) (id : String) (number : Value) : Except Failure Snapshot := do
  let f ← s.file id
  let versions := s.versionsOf id
  if versions.isEmpty then throw (.missing (.parsed f.fileName f.status.name))
  if number.isNull && !f.isCompleted then throw (.missing (.current f.fileName f.status.name))
  let number := if number.isNull then .whole f.currentVersion else number
  match versions.find? fun v => number.same (.whole v.versionNumber) with
  | some v => return v
  | none => throw (.missing (.number number f.fileName))

def version (s : Store) (versionId : String) : Except Failure Snapshot :=
  match Keyed.get? s.byVersionId versionId with
  | some v => .ok v
  | none => .error (.missing (.version versionId))

def versionList (s : Store) (id : String) : Except Failure (List Snapshot) := do
  let _ ← s.file id
  return s.versionsOf id

/-- The current snapshots of the files of a project whose last parse succeeded. -/
def snapshotsOf (s : Store) (projectId : String) : Except Failure (List Snapshot) :=
  ((s.fileList (some projectId)).filter (·.isCompleted)).mapM fun f => s.snapshot f.id .null

/-- The files of a folder whose last parse succeeded. -/
def folderFiles (s : Store) (folderId : String) : List FileRecord :=
  (s.files.map (·.2)).filter fun f => f.folderId = some folderId && f.isCompleted

/-- Deletes a file with all its versions. -/
def delete (s : Store) (id : String) : Except Failure Store := do
  let _ ← s.file id
  let ids := (s.versionsOf id).map (·.versionId)
  return { s with
    files := Keyed.erase s.files id
    versions := Keyed.erase s.versions id
    byVersionId := s.byVersionId.filter fun p => !ids.contains p.1 }

end Store

end LadderAtlas
