import LadderAtlas.CommandLine.Command
import LadderAtlas.CommandLine.Files
import LadderAtlas.Diff.Folders
import LadderAtlas.Export.Component
import LadderAtlas.Export.Manual
import LadderAtlas.Naming.Registry
import LadderAtlas.Settings
import LadderAtlas.Text.CharacterName.Table

/-! # Running a command line

A command line is answered from a view of the files, without writing any. The reply says what is
printed, with which code the program ends and which file is to be written before that. A command line
that cannot be read ends with code 2 and prints nothing; so does a foreseen failure, with its
message, while an unforeseen one ends with code 1. -/

namespace LadderAtlas.CommandLine

/-- The project that the files of a command line belong to. -/
def projectId : String := "cli"

/-- How the program ends: its code, what it prints, and its messages. -/
structure Outcome where
  exitCode : Nat := 0
  printed : String := ""
  messages : List String := []
deriving Repr, DecidableEq

namespace Outcome

/-- The outcome of a command line that cannot be read. -/
def unreadable : Outcome := { exitCode := 2 }

/-- The outcome of a configuration that cannot be read. -/
def unconfigured : Outcome := { exitCode := 1 }

/-- The outcome where the file could not be written. -/
def unwritten (why : String) : Outcome where
  exitCode := 1
  messages := ["❌ Error: " ++ why]

def ofFailure (remarks : List String) (f : Failure) : Outcome where
  exitCode := if f.status?.any (· < 500) then 2 else 1
  messages := remarks ++ ["❌ Error: " ++ f.message]

end Outcome

/-- What a command makes: a text to print, or a file. -/
inductive Product where
  | text (s : String)
  | file (f : NewFile)

/-- The answer to a command line. The outcome holds once the file, if there is one, is written. -/
structure Reply where
  outcome : Outcome
  file : Option NewFile := none

namespace Reply

def ofProduct (remarks : List String) : Product → Reply
  | .text s => ⟨{ printed := s, messages := remarks }, none⟩
  | .file f => ⟨{ printed := "✅ Wrote " ++ f.path ++ "\n", messages := remarks }, some f⟩

/-- The reply to a command, from its remarks and what it makes. -/
def ofAnswer (answer : List String × Except Failure Product) : Reply :=
  match answer.2 with
  | .ok p => ofProduct answer.1 p
  | .error f => ⟨.ofFailure answer.1 f, none⟩

end Reply

/-- The circumstances of a command: its configuration, the files, and the time. -/
structure Environment where
  config : Config
  files : Files
  now : String

namespace Environment

/-- The text of a file in UTF-8. -/
def textOf (bytes : List UInt8) : Except Failure (List Char) :=
  match String.fromUTF8? ⟨bytes.toArray⟩ with
  | some s => .ok s.toList
  | none => .error (.fault .undecodable)

def fileText (files : Files) (path : String) : Except Failure (List Char) :=
  match files.bytes? path with
  | some bytes => textOf bytes
  | none => .error (.fault .missingFile)

/-- Takes a file into a store. -/
def take (e : Environment) (kind : Option FileKind) (s : Store) (path : String) :
    Except Failure Snapshot × Store :=
  s.addFile e.config projectId path (e.files.bytes? path) none (kind.map FileKind.name)

/-- Takes files into a store in turn, up to the first that fails. -/
def takeAll (e : Environment) : Store → List String → Except Failure (List Snapshot)
  | _, [] => .ok []
  | s, path :: rest =>
    match e.take none s path with
    | (.ok snapshot, s) => (takeAll e s rest).map (snapshot :: ·)
    | (.error f, _) => .error f

def load (e : Environment) (paths : List String) : Except Failure (List Snapshot) := e.takeAll {} paths

def project (e : Environment) (paths : List String) : Except Failure Project :=
  (e.load paths).map fun snapshots => ⟨snapshots, e.config.health⟩

/-- The rule set that applies: of the configured ones and those of the file that is named, the one
that is asked for or the default. -/
def ruleSet (e : Environment) (choice : RuleChoice) : Except Failure (Option Naming.RuleSet) := do
  let configured ← Naming.RuleSet.listOfValue (.list e.config.namingRuleSets)
  let named ← match choice.file with
    | some path => Naming.RuleSet.listOfYaml (← fileText e.files path)
    | none => .ok []
  let registry := Naming.Registry.ofList (configured ++ named)
  let registry ← match choice.set with
    | some id => registry.assign projectId (some id)
    | none => .ok registry
  return (registry.resolve (some projectId) none).value

/-- A value as printed: indented JSON and a line feed. -/
def json (v : Value) : Product := .text (Json.indented v ++ "\n")

/-- A text as printed, or as the content of a file. -/
def output (text : String) (path : Option String) : Product :=
  match path with
  | some path => .file ⟨path, text, false⟩
  | none => .text text

/-- Takes exports of a folder into a store. A file that cannot be parsed is passed over with a
remark. -/
def takeExports (e : Environment) (folder : String) :
    Store → List (String × List UInt8) → List String × Except Failure Store
  | s, [] => ([], .ok s)
  | s, (name, bytes) :: rest =>
    let path := pathIn folder name
    match s.addFile e.config projectId path (some bytes) (some folder) none with
    | (.ok _, s) => takeExports e folder s rest
    | (.error (.parse kind cause), s) =>
      let (remarks, result) := takeExports e folder s rest
      (("⚠️ Skipping " ++ path ++ ": " ++ cause.message kind) :: remarks, result)
    | (.error f, _) => ([], .error f)

/-- The files of a folder that have the ending of an export, by name. -/
def exportsIn (e : Environment) (folder : String) : List (String × List UInt8) :=
  let files := ((e.files.inFolder? folder).getD []).filter fun f => (Path.kind f.1).toOption.isSome
  files.mergeSort fun a b => textLe a.1 b.1

def takeFolder (e : Environment) (s : Store) (folder : String) : List String × Except Failure Store :=
  e.takeExports folder s (e.exportsIn folder)

/-- Compares two folders; the remarks are those on files that were passed over. -/
def compareFolders (e : Environment) (left right : String) : List String × Except Failure Product :=
  match e.takeFolder {} left with
  | (remarks, .error f) => (remarks, .error f)
  | (remarks, .ok s) =>
    let (more, result) := e.takeFolder s right
    (remarks ++ more, do return json (← Diff.compareFolders (← result) left right).plain)

def health (e : Environment) (files : List String) (naming : Option Bool) (rules : RuleChoice) :
    Except Failure Product := do
  let options := { e.config.health with namingEnabled := naming.getD e.config.health.namingEnabled }
  let project : Project := ⟨← e.load files, options⟩
  let ruleSet ← if options.namingEnabled then e.ruleSet rules else .ok none
  return json (.record ((project.health ruleSet).fields ++ [("exportTypes", project.exportTypes.plain)]))

def naming (e : Environment) (files : List String) (rules : RuleChoice) (severity : String) :
    Except Failure Product := do
  let ruleSet ← e.ruleSet rules
  let project ← e.project files
  return match project.naming ruleSet with
    | some v => json (v.plain severity)
    | none => json (.record [("violations", .list []), ("message", .text "No naming rule set configured")])

/-- The text that snapshots are exported as. -/
def exported (e : Environment) (snapshots : List Snapshot) : Format → String
  | .csv listing => listing.csv snapshots
  | .manual title =>
    let project : Project := ⟨snapshots, e.config.health⟩
    Export.manual e.now title snapshots (some (project.health none))
  | .context title bound => Export.contextSummary title snapshots bound

/-- What a command makes, after its remarks. -/
def product (e : Environment) : Command → List String × Except Failure Product
  | .parse file kind components output => ([], do
    let data := Export.snapshotExport e.now (← (e.take kind {} file).1) components
    return match output with
      | some path => .file ⟨path, Json.indented data, true⟩
      | none => json data)
  | .references files filter page => ([], do
    let found := referencePage (← e.load files) filter page.number page.size
    return json (referencePagePlain found))
  | .diff old new => ([], do
    let (a, s) := e.take none {} old
    let a ← a
    let b ← (e.take none s new).1
    return json (Diff.Report.compare a.document b.document).plain)
  | .compareFolders left right => e.compareFolders left right
  | .unused files filter page => ([], do
    let found := (← e.project files).unusedPage filter page.number page.size
    return json (Project.unusedPagePlain found))
  | .coverage files => ([], do return json (← e.project files).coverage.plain)
  | .health files naming rules => ([], e.health files naming rules)
  | .naming files rules severity => ([], e.naming files rules severity)
  | .exportAs files format path => ([], do return output (e.exported (← e.load files) format) path)

end Environment

/-- The configuration of an invocation; the default one if it names no file. -/
def Invocation.configuration (i : Invocation) (files : Files) : Except Failure Config :=
  match i.config with
  | none => .ok {}
  | some path => do (Config.ofYaml (← Environment.fileText files path)).result

/-- Whether the files and folders that a command reads are there. -/
def Command.isReady (c : Command) (files : Files) : Bool :=
  c.files.all files.hasFile && c.folders.all files.hasFolder

/-- Answers a command line. -/
def run (now : String) (files : Files) (words : List String) : Reply :=
  match Invocation.ofWords words with
  | none => ⟨.unreadable, none⟩
  | some i =>
    if !i.config.all files.hasFile then ⟨.unreadable, none⟩
    else match i.configuration files with
      | .error _ => ⟨.unconfigured, none⟩
      | .ok config =>
        match (i.read i.words).filter (·.isReady files) with
        | none => ⟨.unreadable, none⟩
        | some command => .ofAnswer (Environment.product ⟨config, files, now⟩ command)

/-- The paths that a command line refers to: the files and folders that it reads. -/
def pathsIn (words : List String) : List String :=
  match Invocation.ofWords words with
  | none => []
  | some i =>
    i.config.toList ++ match i.read i.words with
      | some command => command.files ++ command.folders
      | none => []

end LadderAtlas.CommandLine
