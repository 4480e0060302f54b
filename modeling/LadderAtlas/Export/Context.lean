import LadderAtlas.Query.CrossReference
import LadderAtlas.Query.TagSearch

/-! # Context summaries

A project as plain text of bounded length. A text that is too long is cut at the end of a line, and a
last line says how many characters are missing. -/

namespace LadderAtlas.Export

/-- The default bound on the length of a summary. -/
def contextLimit : Int := 100000

/-- The line that says how many characters are missing. -/
def omissionMark (n : Nat) : List Char :=
  ("[... context truncated: " ++ Number.natText n ++ " characters omitted ...]").toList

/-- The length of a text up to its last line feed; none if it has no line feed. -/
def lastLineFeed? (s : List Char) : Option Nat :=
  if s.contains '\n' then some (s.reverse.dropWhile (· ≠ '\n')).tail.length else none

/-- The text without its last characters, if the bound is negative, or its first ones up to the bound. -/
def firstUpTo (s : List Char) (bound : Int) : List Char :=
  if 0 ≤ bound then s.take bound.toNat else s.take (s.length + bound).toNat

/-- Where a text is cut that may have `budget` characters: at the last line feed after its first
character, or at the budget. -/
def cutPlace (s : List Char) (budget : Nat) : Nat :=
  match lastLineFeed? (s.take (budget + 1)) with
  | some (n + 1) => n + 1
  | _ => budget

/-- Cuts a text to a bound. Where the bound leaves no room for the mark, the text is cut without one. -/
def truncate (s : List Char) (bound : Int) : List Char :=
  if s.length ≤ bound then s
  else
    let budget := bound - (omissionMark s.length).length - 1
    if budget ≤ 0 then firstUpTo s bound
    else
      let head := s.take (cutPlace s budget.toNat)
      head ++ '\n' :: omissionMark (s.length - head.length)

/-- A description after a colon, if there is one. -/
def afterColon (s : Option String) : String :=
  match s.filter (· ≠ "") with
  | some s => ": " ++ s
  | none => ""

def optNumberWord (n : Option Int) : String := (n.map Number.wholeText).getD "None"

def tagLine (t : Tag) : String :=
  "- " ++ t.name ++ " (" ++ t.dataType ++ ", scope: " ++ t.scope ++ ")" ++ afterColon t.description

def routineLine (r : Routine) : String :=
  "- " ++ r.name ++ " (program: " ++ r.programName ++ ", type: " ++ r.type ++ ", rungs: " ++
    optNumberWord r.rungCount ++ ")" ++ afterColon r.description

def definitionLine (name : String) (description : Option String) : String :=
  "- " ++ name ++ afterColon description

def taskLine (t : Task) : String :=
  let rate := match t.rate with
    | some n => ", rate: " ++ Number.wholeText n ++ "ms"
    | none => ""
  let names := ", ".intercalate t.scheduledPrograms
  "- " ++ t.name ++ " (" ++ t.type ++ rate ++ ", priority: " ++ optNumberWord t.priority ++ ", programs: " ++
    (if names = "" then "none" else names) ++ ")"

def rungLine (r : Rung) : String :=
  let comment := if r.hasComment then " [" ++ Text.trimmed (r.comment.getD "") ++ "]" else ""
  "  Rung " ++ Number.wholeText r.number ++ comment ++ ": " ++ r.logicText

/-- The lines under a title with the number of items in it. -/
def counted (title unit : String) (n : Nat) (lines : List String) : List String :=
  (title ++ " (" ++ Number.natText n ++ unit ++ "):") :: lines

/-- As `counted`, after an empty line, if there is something to list. -/
def countedIfAny (title : String) (lines : List String) : List String :=
  if lines.isEmpty then [] else "" :: counted title "" lines.length lines

def rungLines (rungs : List Rung) : List String :=
  (Keyed.groups (fun r : Rung => r.programName ++ "/" ++ r.routineName) rungs).flatMap fun (place, l) =>
    (place ++ ":") :: l.map rungLine

def usageLine (u : String × List String × List String) : String :=
  "- " ++ u.1 ++ ": used in " ++ ", ".intercalate u.2.1 ++ " (" ++ "/".intercalate u.2.2 ++ ")"

/-- The summary of a project before it is cut. -/
def contextText (title : String) (snapshots : List Snapshot) : String :=
  let all {α : Type} (items : Document → List α) : List α := snapshots.flatMap fun s => items s.document
  let tags := all (·.tags)
  let routines := all (·.routines)
  let rungs := all (·.rungs)
  let references := allReferences snapshots
  "\n".intercalate <|
    ["PROJECT \"" ++ title ++ "\"", ""] ++
    counted "TAGS" "" tags.length (tags.map tagLine) ++
    "" :: counted "ROUTINES" "" routines.length (routines.map routineLine) ++
    countedIfAny "USER-DEFINED TYPES" ((all (·.udts)).map fun u => definitionLine u.name u.description) ++
    countedIfAny "ADD-ON INSTRUCTIONS" ((all (·.aois)).map fun a => definitionLine a.name a.description) ++
    countedIfAny "TASKS" ((all (·.tasks)).map taskLine) ++
    "" :: counted "LADDER LOGIC" " rungs" rungs.length (rungLines rungs) ++
    "" :: counted "TAG CROSS-REFERENCES" " references" references.length
      ((usageSummary references).map usageLine)

/-- The summary of a project, within a bound on its length. -/
def contextSummary (title : String) (snapshots : List Snapshot) (bound : Int) : String :=
  String.ofList (truncate (contextText title snapshots).toList bound)

end LadderAtlas.Export
