import LadderAtlas.Document.Plain

/-! # Export levels

How many exports cover a whole controller and how many only a program or a routine. -/

namespace LadderAtlas

structure ExportTypes where
  controllers : Nat
  programs : Nat
  routines : Nat
  /-- The exports below the level of a controller, with the names of what they cover. -/
  partials : List (ExportLevel × Option String)
deriving Repr, DecidableEq

namespace ExportTypes

def ofMetadata (l : List Metadata) : ExportTypes where
  controllers := l.countP (·.level = .controller)
  programs := l.countP (·.level = .program)
  routines := l.countP (·.level = .routine)
  partials := (l.filter (·.isPartial)).map fun m => (m.level, m.targetName)

def hasPartials (t : ExportTypes) : Bool := !t.partials.isEmpty

def allPartial (t : ExportTypes) : Bool := t.hasPartials && t.controllers = 0

/-- The word for what an export covers. -/
def targetWord : ExportLevel → String
  | .routine => "Routine"
  | _ => "Program"

def plain (t : ExportTypes) : Value := .record [
  ("hasPartialExports", .bool t.hasPartials),
  ("allPartial", .bool t.allPartial),
  ("fileBreakdown", .record [
    ("controller", .count t.controllers),
    ("program", .count t.programs),
    ("routine", .count t.routines)]),
  ("partialFiles", .list (t.partials.map fun (level, name) => .record [
    ("targetType", .text (targetWord level)),
    ("targetName", .optText name)]))]

end ExportTypes

end LadderAtlas
