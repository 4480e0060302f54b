import LadderAtlas.CommandLine.Words
import LadderAtlas.Export.Context
import LadderAtlas.Export.Listing
import LadderAtlas.Naming.Rule
import LadderAtlas.Project

/-! # Commands

What can be asked for on the command line: one of a few commands with its files and options, and
before it the file with the configuration. -/

namespace LadderAtlas.CommandLine

/-- Which page of a listing is asked for. -/
structure PageChoice where
  number : Int
  size : Int
deriving Repr, DecidableEq

/-- Rule sets beside the configured ones, and the set to apply. -/
structure RuleChoice where
  file : Option String
  set : Option String
deriving Repr, DecidableEq

/-- What a project is exported as. -/
inductive Format where
  | csv (listing : Export.Listing)
  | manual (title : String)
  | context (title : String) (bound : Int)
deriving Repr

inductive Command where
  | parse (file : String) (kind : Option FileKind) (components : Option (List String)) (output : Option String)
  | references (files : List String) (filter : ReferenceFilter) (page : PageChoice)
  | diff (old new : String)
  | compareFolders (left right : String)
  | unused (files : List String) (filter : TagFilter) (page : PageChoice)
  | coverage (files : List String)
  | health (files : List String) (naming : Option Bool) (rules : RuleChoice)
  | naming (files : List String) (rules : RuleChoice) (severity : String)
  | exportAs (files : List String) (format : Format) (output : Option String)

namespace Words

def single (w : Words) : Option String :=
  match w.arguments with
  | [a] => some a
  | _ => none

def pair (w : Words) : Option (String × String) :=
  match w.arguments with
  | [a, b] => some (a, b)
  | _ => none

/-- The arguments, of which there must be one at least. -/
def several (w : Words) : Option (List String) := if w.arguments.isEmpty then none else some w.arguments

def page (w : Words) : Option PageChoice := do
  return ⟨← w.whole "--page" 1, ← w.whole "--page-size" Page.defaultSize⟩

def rules (w : Words) : RuleChoice := ⟨w.value? "--rules", (w.value? "--rule-set").filter (· ≠ "")⟩

/-- The file to write to; the empty name stands for none. -/
def output (w : Words) : Option String := (w.value? "--output").filter (· ≠ "")

end Words

namespace Command

def outputSwitch : Switch := { names := ["--output", "-o"] }

def pageSwitches : List Switch := [{ names := ["--page"] }, { names := ["--page-size"] }]

def ruleSwitches : List Switch := [{ names := ["--rules"] }, { names := ["--rule-set"] }]

/-- Reads the words of a command that has given options; they may stand anywhere. -/
def wordsOf (switches : List Switch) (words : List String) : Option Words := Words.read switches false words

def parseOf (words : List String) : Option Command := do
  let w ← wordsOf [{ names := ["--kind"] }, { names := ["--include"] }, outputSwitch] words
  let kind ← match w.value? "--kind" with
    | none => some none
    | some k => ([FileKind.l5x, .l5k].find? (·.name = Text.lowered k)).map some
  let components := w.values "--include"
  return .parse (← w.single) kind (if components.isEmpty then none else some components) w.output

def referencesOf (words : List String) : Option Command := do
  let w ← wordsOf ([{ names := ["--search"] }, { names := ["--usage-type"] }, { names := ["--program"] }] ++
    pageSwitches) words
  let usage ← w.choice "--usage-type" "all" ("all" :: Usage.all.map Usage.name)
  return .references (← w.several) ⟨w.value? "--search", Usage.ofName? usage, w.value? "--program"⟩ (← w.page)

def diffOf (words : List String) : Option Command := do
  let (old, new) ← (← wordsOf [] words).pair
  return .diff old new

def compareFoldersOf (words : List String) : Option Command := do
  let (left, right) ← (← wordsOf [] words).pair
  return .compareFolders left right

def unusedOf (words : List String) : Option Command := do
  let w ← wordsOf ([{ names := ["--search"] }, { names := ["--scope"] }, { names := ["--data-type"] }] ++
    pageSwitches) words
  return .unused (← w.several) ⟨w.value? "--search", w.value? "--scope", w.value? "--data-type"⟩ (← w.page)

def coverageOf (words : List String) : Option Command := do
  return .coverage (← (← wordsOf [] words).several)

def healthOf (words : List String) : Option Command := do
  let flags : List Switch := [⟨["--naming"], false⟩, ⟨["--no-naming"], false⟩]
  let w ← wordsOf (flags ++ ruleSwitches) words
  return .health (← w.several) (w.either "--naming" "--no-naming") w.rules

def namingOf (words : List String) : Option Command := do
  let w ← wordsOf ({ names := ["--severity"] } :: ruleSwitches) words
  let severity ← w.choice "--severity" "all" ["error", "warning", "info", "all"]
  return .naming (← w.several) w.rules severity

def exportOf (words : List String) : Option Command := do
  let w ← wordsOf [{ names := ["--format"] }, { names := ["--what"] }, { names := ["--project-name"] },
    { names := ["--max-chars"] }, outputSwitch] words
  let format ← w.choice "--format" "csv" ["csv", "markdown", "context"]
  let listing ← Export.Listing.ofName? ((w.value? "--what").getD Export.Listing.tags.name)
  let title := (w.value? "--project-name").getD "Project"
  let bound ← w.whole "--max-chars" Export.contextLimit
  let format := if format = "csv" then .csv listing
    else if format = "markdown" then .manual title
    else .context title bound
  return .exportAs (← w.several) format w.output

/-- The commands by name, each with the reader of its words. -/
def readers : List (String × (List String → Option Command)) := [
  ("parse", parseOf),
  ("refs", referencesOf),
  ("diff", diffOf),
  ("compare-folders", compareFoldersOf),
  ("unused", unusedOf),
  ("coverage", coverageOf),
  ("health", healthOf),
  ("naming", namingOf),
  ("export", exportOf)]

/-- The files that a command reads, which must be there. -/
def files : Command → List String
  | .parse file _ _ _ => [file]
  | .references files _ _ | .unused files _ _ | .coverage files | .exportAs files _ _ => files
  | .diff old new => [old, new]
  | .compareFolders _ _ => []
  | .health files _ rules | .naming files rules _ => files ++ rules.file.toList

/-- The folders that a command reads, which must be there. -/
def folders : Command → List String
  | .compareFolders left right => [left, right]
  | _ => []

end Command

/-- A command line: the file with the configuration, and a command, whose words are read once there
is a configuration. -/
structure Invocation where
  config : Option String
  read : List String → Option Command
  words : List String

/-- Reads a command line; none if there is no known command in it. -/
def Invocation.ofWords (words : List String) : Option Invocation := do
  let w ← Words.read [⟨["--verbose", "-v"], false⟩, { names := ["--config", "-c"] }] true words
  match w.arguments with
  | [] => none
  | name :: rest => return ⟨w.value? "--config", ← Keyed.get? Command.readers name, rest⟩

end LadderAtlas.CommandLine
